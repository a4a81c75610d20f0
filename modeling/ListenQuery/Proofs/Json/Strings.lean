import ListenQuery.Proofs.Json.Cursor

/-!
# Strings read back

A quoted string is read as that string, and its quoted form has no control character.
-/

namespace ListenQuery

theorem escapeChar_ne_nil (c : Char) : escapeChar c ≠ [] := by
  unfold escapeChar
  split_ifs <;> simp

namespace Cursor

theorem hexValue_hexDigitText {n : Nat} (hn : n < 16) : hexValue (hexDigitText n) = some n := by
  interval_cases n <;> rfl

theorem utf8Size_hexDigitText {n : Nat} (hn : n < 16) : (hexDigitText n).utf8Size = 1 := by
  interval_cases n <;> rfl

theorem unicodeEscape_control {n : Nat} (hn : n < 32) (rest : List Char) (p : Position) :
    ∃ p', unicodeEscape ⟨'0' :: '0' :: hexDigitText (n / 16) :: hexDigitText (n % 16) :: rest, p⟩ =
      .ok (Char.ofNat n, ⟨rest, p'⟩) := by
  have hhigh : n / 16 < 16 := by omega
  have hlow : n % 16 < 16 := Nat.mod_lt n (by decide)
  have hzero : hexValue '0' = some 0 := rfl
  have hsize : Char.utf8Size '0' = 1 := rfl
  have hquad : ∃ p', hexQuad
      ⟨'0' :: '0' :: hexDigitText (n / 16) :: hexDigitText (n % 16) :: rest, p⟩ =
        .ok (n, ⟨rest, p'⟩) := by
    refine ⟨bump (hexDigitText (n % 16)) (bump (hexDigitText (n / 16)) (bump '0' (bump '0' p))), ?_⟩
    simp [hexQuad, hexValue_hexDigitText hhigh, hexValue_hexDigitText hlow, hzero, hsize,
      utf8Size_hexDigitText hhigh, utf8Size_hexDigitText hlow, drop]
    omega
  obtain ⟨p', hquad⟩ := hquad
  refine ⟨p', ?_⟩
  simp only [unicodeEscape, hquad, ok_bind]
  rw [if_neg (by omega), if_pos (by omega)]
  rfl

theorem stringWithin_escapeChar (c : Char) (steps : Nat) (read rest : List Char) (p : Position) :
    ∃ p', stringWithin (steps + 1) read ⟨escapeChar c ++ rest, p⟩ =
      stringWithin steps (c :: read) ⟨rest, p'⟩ := by
  unfold escapeChar
  split_ifs with hquote hbackslash hnewline hreturn htab hback hfeed hcontrol
  · subst hquote
    exact ⟨_, rfl⟩
  · subst hbackslash
    exact ⟨_, rfl⟩
  · subst hnewline
    exact ⟨_, rfl⟩
  · subst hreturn
    exact ⟨_, rfl⟩
  · subst htab
    exact ⟨_, rfl⟩
  · obtain rfl : c = Char.ofNat 8 := by rw [← hback, Char.ofNat_toNat]
    exact ⟨_, rfl⟩
  · obtain rfl : c = Char.ofNat 12 := by rw [← hfeed, Char.ofNat_toNat]
    exact ⟨_, rfl⟩
  · obtain ⟨p', hread⟩ := unicodeEscape_control hcontrol rest (bump 'u' (bump '\\' p))
    refine ⟨p', ?_⟩
    rw [Char.ofNat_toNat] at hread
    simp [stringWithin, escape, hread]
  · exact ⟨bump c p, by simp [stringWithin, hquote, hbackslash, hcontrol]⟩

theorem stringWithin_flatMap (cs : List Char) (steps : Nat) (hsteps : cs.length < steps)
    (read rest : List Char) (p : Position) :
    ∃ p', stringWithin steps read ⟨cs.flatMap escapeChar ++ '"' :: rest, p⟩ =
      .ok (String.ofList (read.reverse ++ cs), ⟨rest, p'⟩) := by
  induction cs generalizing steps read p with
  | nil =>
    obtain ⟨steps, rfl⟩ := Nat.exists_eq_succ_of_ne_zero hsteps.ne'
    exact ⟨bump '"' p, by simp [stringWithin]⟩
  | cons c cs ih =>
    obtain ⟨steps, rfl⟩ := Nat.exists_eq_succ_of_ne_zero (Nat.ne_zero_of_lt hsteps)
    obtain ⟨p₁, hstep⟩ :=
      stringWithin_escapeChar c steps read (cs.flatMap escapeChar ++ '"' :: rest) p
    obtain ⟨p₂, hread⟩ := ih steps (Nat.lt_of_succ_lt_succ hsteps) (c :: read) p₁
    refine ⟨p₂, ?_⟩
    rw [List.flatMap_cons, List.append_assoc, hstep, hread]
    simp

theorem length_le_flatMap_escapeChar (cs : List Char) :
    cs.length ≤ (cs.flatMap escapeChar).length := by
  induction cs with
  | nil => simp
  | cons c cs ih =>
    have hc : 0 < (escapeChar c).length := List.length_pos_iff.2 (escapeChar_ne_nil c)
    simp only [List.flatMap_cons, List.length_append, List.length_cons]
    omega

theorem string_quoted (s : String) (rest : List Char) (p : Position) :
    ∃ p', string ⟨s.toList.flatMap escapeChar ++ '"' :: rest, p⟩ = .ok (s, ⟨rest, p'⟩) := by
  have hlength := length_le_flatMap_escapeChar s.toList
  have hsteps : s.toList.length < (s.toList.flatMap escapeChar ++ '"' :: rest).length + 1 := by
    simp only [List.length_append]
    omega
  obtain ⟨p', hread⟩ := stringWithin_flatMap s.toList _ hsteps [] rest p
  exact ⟨p', by simpa [string] using hread⟩

end Cursor

end ListenQuery

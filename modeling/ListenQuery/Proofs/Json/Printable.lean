import ListenQuery.Proofs.Json.Strings

/-!
# Compact JSON without control characters

Whatever a value holds, its compact form has no control character: those within strings are
escaped, and none stands between the parts.
-/

namespace ListenQuery

open Number

def Printable (cs : List Char) : Prop := ∀ c ∈ cs, 32 ≤ c.toNat

instance (cs : List Char) : Decidable (Printable cs) := List.decidableBAll _ cs

theorem printable_cons {c : Char} {cs : List Char} (hc : 32 ≤ c.toNat) (hcs : Printable cs) :
    Printable (c :: cs) := List.forall_mem_cons.2 ⟨hc, hcs⟩

theorem printable_append {cs ds : List Char} (hcs : Printable cs) (hds : Printable ds) :
    Printable (cs ++ ds) := fun c hc => (List.mem_append.1 hc).elim (hcs c) (hds c)

theorem printable_hexDigitText {n : Nat} (hn : n < 16) : 32 ≤ (hexDigitText n).toNat := by
  interval_cases n <;> decide

theorem printable_escapeChar (c : Char) : Printable (escapeChar c) := by
  unfold escapeChar
  split_ifs with _ _ _ _ _ _ _ hcontrol
  iterate 7
    · decide
  · have hhigh := printable_hexDigitText (n := c.toNat / 16) (by omega)
    have hlow := printable_hexDigitText (n := c.toNat % 16) (by omega)
    have hstart : Printable ['\\', 'u', '0', '0'] := by decide
    exact printable_append hstart (printable_cons hhigh (printable_cons hlow (by simp [Printable])))
  · exact printable_cons (Nat.not_lt.1 hcontrol) (by simp [Printable])

theorem printable_quoted (s : String) : Printable (quoted s) := by
  refine printable_cons (by decide) (printable_append ?_ (by simp [Printable]))
  intro d hd
  obtain ⟨c, -, hc⟩ := List.mem_flatMap.1 hd
  exact printable_escapeChar c d hc

theorem printable_of_isDigit {c : Char} (h : isDigit c = true) : 32 ≤ c.toNat := by
  simp only [isDigit, Bool.and_eq_true, decide_eq_true_eq] at h
  exact le_trans (by decide) (UInt32.le_iff_toNat_le.1 h.1)

theorem printable_digits {ds : List Char} (h : AreDigits ds) : Printable ds :=
  fun c hc => printable_of_isDigit (h c hc)

theorem printable_exponentText (e : Int) : Printable (exponentText e) := by
  have hsign : 32 ≤ (if e < 0 then '-' else '+').toNat := by split_ifs <;> decide
  exact printable_cons (by decide) (printable_cons hsign (printable_digits (areDigits_natText _)))

theorem printable_signed {negative : Bool} {cs : List Char} (h : Printable cs) :
    Printable (signed negative cs) := by
  cases negative with
  | false => exact h
  | true => exact printable_cons (by decide) h

theorem printable_numeral (n : Numeral) : Printable n.text := by
  cases n with
  | integer n hn =>
    have hdigits := printable_digits (areDigits_natText n.natAbs)
    rw [Numeral.text, intText]
    split_ifs
    · exact printable_cons (by decide) hdigits
    · exact hdigits
  | real x hx =>
    obtain ⟨text, whole, fraction, e, htext, hwhole, hfraction, hspells, -⟩ :=
      exists_spells_dataText hx
    have hdigits := printable_digits hwhole.digits
    have hmore := printable_digits hfraction
    rw [Numeral.text, htext]
    refine printable_signed ?_
    cases hspells with
    | fixed => exact printable_append hdigits (printable_cons (by decide) hmore)
    | power => exact printable_append hdigits (printable_exponentText e)
    | scientific =>
      exact printable_append hdigits
        (printable_cons (by decide) (printable_append hmore (printable_exponentText e)))

namespace Json

mutual

theorem printable_compact (json : Json) : Printable json.compact := by
  cases json with
  | null => decide
  | bool b => cases b <;> decide
  | number n => exact printable_numeral n
  | string s => exact printable_quoted s
  | array items => exact printable_cons (by decide) (printable_compactItems items)
  | object members => exact printable_cons (by decide) (printable_compactMembers members)

theorem printable_compactItems (items : List Json) : Printable (compactItems items) := by
  cases items with
  | nil => exact printable_cons (by decide) (by simp [Printable])
  | cons item rest => exact printable_append (printable_compact item) (printable_compactRest rest)

theorem printable_compactRest (items : List Json) : Printable (compactRest items) := by
  cases items with
  | nil => exact printable_cons (by decide) (by simp [Printable])
  | cons item rest =>
    exact printable_cons (by decide)
      (printable_append (printable_compact item) (printable_compactRest rest))

theorem printable_compactMembers (members : Fields Json) : Printable (compactMembers members) := by
  cases members with
  | nil => exact printable_cons (by decide) (by simp [Printable])
  | cons member rest =>
    obtain ⟨name, value⟩ := member
    have hvalue := printable_cons (c := ':') (by decide) (printable_compact value)
    exact printable_append (printable_append (printable_quoted name) hvalue)
      (printable_compactMembersRest rest)

theorem printable_compactMembersRest (members : Fields Json) :
    Printable (compactMembersRest members) := by
  cases members with
  | nil => exact printable_cons (by decide) (by simp [Printable])
  | cons member rest =>
    obtain ⟨name, value⟩ := member
    have hvalue := printable_cons (c := ':') (by decide) (printable_compact value)
    exact printable_cons (by decide) (printable_append
      (printable_append (printable_quoted name) hvalue) (printable_compactMembersRest rest))

end

end Json

end ListenQuery

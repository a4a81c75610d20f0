import ListenQuery.Proofs.Json.Values
import ListenQuery.Proofs.Number.Grammar

/-!
# Numbers in data are literals

What is read as a number in data is written as a decimal, with blanks around it at most. Where
numbers in data are read as the nearest doubles, it is the same number as a literal, however it is
held: an integer stands for the double nearest to it.
-/

namespace ListenQuery

open Number Text

namespace Cursor

/-! ## Digits and exponents -/

section

variable {cur cur' : Cursor} {n : Numeral} {e : Int}

theorem AreSpaces.blank {spaces : List Char} (h : AreSpaces spaces) :
    ∀ c ∈ spaces, isBlank c = true := by
  intro c hc
  have hspace := h c hc
  simp only [isSpace, Bool.or_eq_true, decide_eq_true_eq] at hspace
  obtain ((rfl | rfl) | rfl) | rfl := hspace <;> rfl

theorem exists_spaces (cur : Cursor) :
    ∃ spaces, AreSpaces spaces ∧ cur.rest = spaces ++ cur.skipSpace.rest := by
  obtain ⟨rest, p⟩ := cur
  induction rest generalizing p with
  | nil => exact ⟨[], areSpaces_nil, rfl⟩
  | cons c rest ih =>
    by_cases hc : isSpace c = true
    · obtain ⟨spaces, hspaces, hrest⟩ := ih (bump c p)
      refine ⟨c :: spaces, List.forall_mem_cons.2 ⟨hc, hspaces⟩, ?_⟩
      simpa [skipSpace, skipSpaceFrom, hc] using hrest
    · exact ⟨[], areSpaces_nil, by simp [skipSpace, skipSpaceFrom, hc]⟩

theorem digits_spec (cur : Cursor) : AreDigits cur.digits.1 ∧
    cur.rest = cur.digits.1 ++ cur.digits.2.rest ∧
    ∀ c ∈ cur.digits.2.rest.head?, isDigit c = false := by
  obtain ⟨rest, p⟩ := cur
  induction rest generalizing p with
  | nil => exact ⟨List.forall_mem_nil _, rfl, by simp [digits, digitsFrom]⟩
  | cons c rest ih =>
    by_cases hc : isDigit c = true
    · obtain ⟨hdigits, hrest, hend⟩ := ih (bump c p)
      simp only [digits] at hdigits hrest hend
      simp only [digits, digitsFrom, hc, if_true, List.cons_append, List.cons.injEq, true_and]
      exact ⟨List.forall_mem_cons.2 ⟨hc, hdigits⟩, hrest, hend⟩
    · simp [digits, digitsFrom, hc, AreDigits]

theorem digits_ne_nil {c : Char} {more ds rest : List Char} (hc : isDigit c = true)
    (hsplit : c :: more = ds ++ rest) (hend : ∀ c ∈ rest.head?, isDigit c = false) : ds ≠ [] := by
  rintro rfl
  have hstop := hend c (by rw [← List.nil_append rest, ← hsplit]; rfl)
  rw [hc] at hstop
  cases hstop

theorem exponentWithin_eq_ok {positive zero : Bool} {cs : List Char} {m k : Nat} {p : Position}
    (h : exponentWithin positive zero cs m p = .ok (k, cur')) :
    ∃ ds, AreDigits ds ∧ cs = ds ++ cur'.rest ∧ (∀ c ∈ cur'.rest.head?, isDigit c = false) ∧
      k = Nat.ofDigitChars 10 ds m := by
  induction cs generalizing m p with
  | nil =>
    obtain ⟨rfl, rfl⟩ := Prod.mk.inj (Except.ok.inj h)
    exact ⟨[], List.forall_mem_nil _, rfl, by simp, rfl⟩
  | cons c rest ih =>
    rw [exponentWithin] at h
    dsimp only at h
    split_ifs at h with hc
    · obtain ⟨ds, hds, hrest, hend, hk⟩ := ih h
      exact ⟨c :: ds, List.forall_mem_cons.2 ⟨hc, hds⟩, congrArg (c :: ·) hrest, hend, hk⟩
    · obtain ⟨rfl, rfl⟩ := Prod.mk.inj (Except.ok.inj h)
      exact ⟨[], List.forall_mem_nil _, rfl, by simpa using hc, rfl⟩

/-- An exponent is its sign and what its digits are read as. -/
theorem exponent_eq (zero : Bool) (cur : Cursor) : ∃ (sign : List Char) (after : Cursor),
    IsSign sign ∧ cur.rest = sign ++ after.rest ∧ exponent zero cur =
      match after.rest with
      | [] => after.faultHere .endInValue
      | c :: _ =>
        if isDigit c then do
          let (n, cur) ← exponentWithin (sign ≠ ['-']) zero after.rest 0 after.position
          pure (if sign ≠ ['-'] then (n : Int) else - (n : Int), cur)
        else after.faultAhead .invalidNumber := by
  obtain ⟨rest, p⟩ := cur
  cases rest with
  | nil => exact ⟨[], ⟨[], p⟩, .inl rfl, rfl, rfl⟩
  | cons c rest =>
    by_cases hplus : c = '+'
    · subst hplus
      exact ⟨['+'], ⟨rest, bump '+' p⟩, .inr (.inl rfl), rfl, rfl⟩
    by_cases hminus : c = '-'
    · subst hminus
      exact ⟨['-'], ⟨rest, bump '-' p⟩, .inr (.inr rfl), rfl, rfl⟩
    · exact ⟨[], ⟨c :: rest, p⟩, .inl rfl, rfl, by simp [exponent, hplus, hminus]⟩

theorem exponent_eq_ok {zero : Bool} (h : exponent zero cur = .ok (e, cur')) {letter : Char}
    (hletter : letter = 'e' ∨ letter = 'E') :
    ∃ power : PowerText, power.IsProper ∧ letter :: cur.rest = power.text ++ cur'.rest ∧
      e = power.value := by
  obtain ⟨sign, after, hsign, hrest, hread⟩ := exponent_eq zero cur
  rw [hread] at h
  split at h
  · cases h
  · next c more hmore =>
    rw [ite_eq_iff] at h
    obtain ⟨hc, h⟩ | ⟨-, h⟩ := h
    · obtain ⟨⟨k, after'⟩, hk, heq⟩ := bind_eq_ok_iff.1 h
      obtain ⟨rfl, rfl⟩ := Prod.mk.inj (Except.ok.inj heq)
      obtain ⟨ds, hds, hafter, hend, rfl⟩ := exponentWithin_eq_ok hk
      have hne : ds ≠ [] := digits_ne_nil hc (hmore.symm.trans hafter) hend
      refine ⟨⟨letter, sign, ds⟩, ⟨hletter, hsign, hds, hne⟩, ?_, ?_⟩
      · rw [hrest, hafter, PowerText.text, List.cons_append, List.append_assoc]
      · rw [PowerText.value, ite_not]
        rfl
    · cases h

/-! ## Numbers -/

theorem realNumeral_eq_ok {x : Double} (h : realNumeral x cur = .ok (n, cur')) :
    n.toDouble = x ∧ cur = cur' := by
  unfold realNumeral at h
  split at h
  · obtain ⟨rfl, rfl⟩ := Prod.mk.inj (Except.ok.inj h)
    exact ⟨rfl, rfl⟩
  · cases h

variable [RealReading] {whole sign : List Char} {negative : Bool}

theorem integerNumeral_eq_ok (hnearest : RealReading.IsNearest) (hwhole : AreDigits whole)
    (h : integerNumeral negative whole cur = .ok (n, cur')) :
    n.toDouble = Decimal.toDouble ⟨negative, spelled whole, 0⟩ ∧ cur = cur' := by
  unfold integerNumeral at h
  dsimp only at h
  split_ifs at h with hfits hfits'
  · obtain ⟨rfl, rfl⟩ := Prod.mk.inj (Except.ok.inj h)
    have hnonneg : ¬ (spelled whole : Int) < 0 := by omega
    exact ⟨by simp [Numeral.toDouble, Decimal.ofInt_eq_toDouble, hfits.1, hnonneg], rfl⟩
  · obtain ⟨rfl, rfl⟩ := Prod.mk.inj (Except.ok.inj h)
    have hneg : -(spelled whole : Int) < 0 := by omega
    exact ⟨by simp [Numeral.toDouble, Decimal.ofInt_eq_toDouble, hfits'.1, hfits'.2.1], rfl⟩
  · obtain ⟨hn, rfl⟩ := realNumeral_eq_ok h
    have hdouble := hnearest negative whole [] 0 hwhole (List.forall_mem_nil _)
    exact ⟨by simpa using hn.trans hdouble, rfl⟩

theorem numeralEnd_eq_ok (hnearest : RealReading.IsNearest) {t : DecimalText} (ht : t.IsProper)
    (hpower : t.power = none) {plain : Cursor → Except Fault (Numeral × Cursor)}
    (hplain : plain cur = .ok (n, cur') → n.toDouble = t.decimal.toDouble ∧ cur = cur')
    (h : numeralEnd (t.sign = ['-']) t.whole (t.fraction.getD []) cur plain = .ok (n, cur')) :
    ∃ u : DecimalText, u.IsProper ∧ t.text ++ cur.rest = u.text ++ cur'.rest ∧
      n.toDouble = u.decimal.toDouble := by
  have hend (hread : plain cur = .ok (n, cur')) : ∃ u : DecimalText, u.IsProper ∧
      t.text ++ cur.rest = u.text ++ cur'.rest ∧ n.toDouble = u.decimal.toDouble := by
    obtain ⟨hn, rfl⟩ := hplain hread
    exact ⟨t, ht, rfl, hn⟩
  obtain ⟨sign, whole, fraction, power⟩ := t
  obtain rfl : power = none := hpower
  unfold numeralEnd at h
  split at h
  · exact hend h
  · next c rest hrest =>
    split_ifs at h with hletter
    · obtain ⟨⟨e, after⟩, hexponent, hreal⟩ := bind_eq_ok_iff.1 h
      obtain ⟨hn, rfl⟩ := realNumeral_eq_ok hreal
      have hfraction : AreDigits (fraction.getD []) := by
        cases fraction with
        | none => exact List.forall_mem_nil _
        | some ds => exact ht.fraction ds rfl
      have hletter' : c = 'e' ∨ c = 'E' := by simpa using hletter
      obtain ⟨power, hpower, htext, rfl⟩ := exponent_eq_ok hexponent hletter'
      refine ⟨⟨sign, whole, fraction, some power⟩, ⟨ht.sign, ht.whole, ht.fraction, ht.ne_nil, ?_⟩,
        ?_, hn.trans (hnearest _ _ _ _ ht.whole hfraction)⟩
      · rintro _ ⟨⟩
        exact hpower
      · have hnext : cur.rest = c :: cur.next.rest := by simp [next, hrest]
        rw [hnext, htext]
        simp [DecimalText.text, DecimalText.unsignedText, DecimalText.pointText]
    · exact hend h

theorem numeralTail_eq_ok (hnearest : RealReading.IsNearest) (hsign : IsSign sign)
    (hwhole : AreDigits whole) (hne : whole ≠ [])
    (h : numeralTail (sign = ['-']) whole cur = .ok (n, cur')) :
    ∃ t : DecimalText, t.IsProper ∧ sign ++ (whole ++ cur.rest) = t.text ++ cur'.rest ∧
      n.toDouble = t.decimal.toDouble := by
  unfold numeralTail at h
  split at h
  · next more hrest =>
    obtain ⟨hfraction, hafter, -⟩ := digits_spec cur.next
    dsimp only at h
    generalize cur.next.digits = read at h hfraction hafter
    obtain ⟨fraction, after⟩ := read
    rw [ite_eq_iff] at h
    obtain ⟨-, h⟩ | ⟨-, h⟩ := h
    · split at h <;> cases h
    have ht : DecimalText.IsProper ⟨sign, whole, some fraction, none⟩ :=
      ⟨hsign, hwhole, by rintro _ ⟨⟩; exact hfraction, by simp [hne], by simp⟩
    obtain ⟨u, hu, htext, hn⟩ := numeralEnd_eq_ok hnearest ht rfl (fun hread =>
      (realNumeral_eq_ok hread).imp_left (·.trans (hnearest _ _ _ _ hwhole hfraction))) h
    refine ⟨u, hu, ?_, hn⟩
    have hnext : cur.rest = '.' :: cur.next.rest := by simp [next, hrest]
    rw [← htext, hnext, hafter]
    simp [DecimalText.text, DecimalText.unsignedText]
  · have ht : DecimalText.IsProper ⟨sign, whole, none, none⟩ :=
      ⟨hsign, hwhole, by simp, by simp [hne], by simp⟩
    have hdecimal : DecimalText.decimal ⟨sign, whole, none, none⟩ =
        ⟨decide (sign = ['-']), spelled whole, 0⟩ := by
      simp [DecimalText.decimal]
    obtain ⟨u, hu, htext, hn⟩ := numeralEnd_eq_ok hnearest ht rfl
      (hdecimal ▸ integerNumeral_eq_ok hnearest hwhole) h
    refine ⟨u, hu, ?_, hn⟩
    rw [← htext]
    simp [DecimalText.text, DecimalText.unsignedText]

theorem numeral_eq (cur : Cursor) : ∃ (sign : List Char) (after : Cursor),
    IsSign sign ∧ cur.rest = sign ++ after.rest ∧ numeral cur =
      match after.rest with
      | [] => after.faultHere .endInValue
      | c :: _ =>
        if c = '0' then
          match after.next.rest with
          | d :: _ =>
            if isDigit d then after.next.faultAhead .invalidNumber
            else numeralTail (sign = ['-']) ['0'] after.next
          | [] => numeralTail (sign = ['-']) ['0'] after.next
        else if isDigit c then numeralTail (sign = ['-']) after.digits.1 after.digits.2
        else after.faultAhead .invalidNumber := by
  obtain ⟨rest, p⟩ := cur
  cases rest with
  | nil => exact ⟨[], ⟨[], p⟩, .inl rfl, rfl, rfl⟩
  | cons c rest =>
    by_cases hminus : c = '-'
    · subst hminus
      exact ⟨['-'], ⟨rest, bump '-' p⟩, .inr (.inr rfl), rfl, rfl⟩
    · exact ⟨[], ⟨c :: rest, p⟩, .inl rfl, rfl, by cases rest <;> simp [numeral, hminus]⟩

theorem numeral_eq_ok (hnearest : RealReading.IsNearest) (h : numeral cur = .ok (n, cur')) :
    ∃ t : DecimalText, t.IsProper ∧ cur.rest = t.text ++ cur'.rest ∧
      n.toDouble = t.decimal.toDouble := by
  obtain ⟨sign, after, hsign, hrest, hread⟩ := numeral_eq cur
  rw [hread] at h
  rw [hrest]
  split at h
  · cases h
  · next c more hmore =>
    split_ifs at h with hzero hdigit
    · have hnext : after.rest = ['0'] ++ after.next.rest := by simp [next, hmore, hzero]
      have htail : numeralTail (sign = ['-']) ['0'] after.next = .ok (n, cur') := by
        split at h
        · split_ifs at h
          · cases h
          · exact h
        · exact h
      rw [hnext]
      exact numeralTail_eq_ok hnearest hsign isWhole_zero.digits isWhole_zero.ne_nil htail
    · obtain ⟨hwhole, hafter, hend⟩ := digits_spec after
      rw [hafter]
      exact numeralTail_eq_ok hnearest hsign hwhole
        (digits_ne_nil hdigit (hmore.symm.trans hafter) hend) h
    · cases h

theorem numeral_of_value {depth : Nat} (h : value depth cur = .ok (.number n, cur')) :
    numeral cur.skipSpace = .ok (n, cur') := by
  unfold value at h
  cases depth
  all_goals
    dsimp only at h
    split at h
    · cases h
    split_ifs at h
  -- Only a number is read as a number.
  all_goals simp only [map_eq_ok_iff, Prod.mk.injEq, Prod.exists, faultAhead, reduceCtorEq,
    Json.number.injEq, false_and, and_false, exists_false] at h
  all_goals
    obtain ⟨_, _, hread, rfl, rfl⟩ := h
    exact hread

end

end Cursor

open Cursor

section

variable [RealReading] (hnearest : RealReading.IsNearest) {text : String} {n : Numeral}

include hnearest

theorem Json.read_eq_number (h : Json.read text = .ok (.number n)) :
    ∃ t : DecimalText, t.IsProper ∧ trim text.toList = t.text ∧
      n.toDouble = t.decimal.toDouble := by
  obtain ⟨⟨json, cur⟩, hvalue, hfinish⟩ := bind_eq_ok_iff.1 h
  obtain ⟨hend, rfl⟩ := finish_eq_ok_iff.1 hfinish
  obtain ⟨t, ht, hrest, hn⟩ := numeral_eq_ok hnearest (numeral_of_value hvalue)
  obtain ⟨spaces, hspaces, hstart⟩ := exists_spaces (Cursor.start text)
  obtain ⟨spaces', hspaces', hafter⟩ := exists_spaces cur
  refine ⟨t, ht, ?_, hn⟩
  have htext : text.toList = spaces ++ (t.text ++ spaces') := by
    rw [← List.append_nil spaces', ← hend, ← hafter, ← hrest]
    exact hstart
  rw [htext, trim_append_blank hspaces.blank hspaces'.blank]
  exact trim_of_not_blank ht.not_blank

end

end ListenQuery

import ListenQuery.Proofs.Number.Arithmetic
import ListenQuery.Proofs.Number.DecimalText

/-!
# The grammar of numeric literals

A literal without the blanks around it is empty, digits of base 16, 8 or 2 after their mark, a
spelling of infinity or a decimal. These do not overlap, and nothing else is a number. The digits
after a mark are gathered by products and sums, which could give no number, and never do.
-/

namespace ListenQuery.Number

open Text

/-- The digits of the base that is two to the power of `width`. -/
def radixDigits (width : Nat) : List Char :=
  if width = 1 then "01".toList
  else if width = 3 then "01234567".toList
  else "0123456789abcdefABCDEF".toList

/-- The literals, and what each of them comes to. -/
inductive LiteralDenotes : List Char → Datum → Prop
  | empty : LiteralDenotes [] (.number (.zero false))
  | radix {mark : Char} {width : Nat} {digits : List Char} (hmark : (mark, width) ∈ radixMarks)
    (hne : digits ≠ []) (hdigits : ∀ c ∈ digits, c ∈ radixDigits width) :
    LiteralDenotes ('0' :: mark :: digits)
      (.gather (2 ^ width) (digits.map fun c => (radixDigit (2 ^ width) c).getD 0))
  | infinity {sign : List Char} (hsign : IsSign sign) :
    LiteralDenotes (sign ++ "Infinity".toList) (.number (.infinity (decide (sign = ['-']))))
  | decimal {t : DecimalText} (ht : t.IsProper) : LiteralDenotes t.text (.number t.decimal.toDouble)

/-! ## Integers in other bases -/

section

variable {mark : Char} {width : Nat} {cs digits : List Char} {x : Double}

theorem width_of_mark (hmark : (mark, width) ∈ radixMarks) : width = 4 ∨ width = 3 ∨ width = 1 := by
  simp only [radixMarks, List.mem_cons, Prod.mk.injEq, List.not_mem_nil, or_false] at hmark
  omega

theorem toNat_lt_of_radixDigit {radix : Nat} {c : Char} (h : (radixDigit radix c).isSome = true) :
    c.toNat < 128 := by
  by_contra hlt
  rw [Nat.not_lt] at hlt
  have hrange (d : Char) (hd : d.toNat < 128) : ¬ c ≤ d := by
    rw [Char.le_def, UInt32.le_iff_toNat_le, Nat.not_le]
    exact hd.trans_le hlt
  simp [radixDigit, hrange '9' (by decide), hrange 'z' (by decide), hrange 'Z' (by decide)] at h

theorem isSome_radixDigit_iff (hmark : (mark, width) ∈ radixMarks) {c : Char} :
    (radixDigit (2 ^ width) c).isSome = true ↔ c ∈ radixDigits width := by
  have hascii : ∀ width ∈ [4, 3, 1], ∀ n < 128,
      ((radixDigit (2 ^ width) (Char.ofNat n)).isSome = true ↔
        Char.ofNat n ∈ radixDigits width) := by decide +kernel
  have hsmall : ∀ width ∈ [4, 3, 1],
      (radixDigits width).all (fun c => decide (c.toNat < 128)) = true := by decide +kernel
  have hwidth : width ∈ [4, 3, 1] := by simpa using width_of_mark hmark
  rcases Nat.lt_or_ge c.toNat 128 with hlt | hge
  · have hiff := hascii width hwidth c.toNat hlt
    rwa [Char.ofNat_toNat] at hiff
  · refine iff_of_false (fun h => ?_) (fun h => ?_)
    · exact absurd (toNat_lt_of_radixDigit h) (Nat.not_lt.2 hge)
    · have hlt := List.all_eq_true.1 (hsmall width hwidth) c h
      exact absurd (of_decide_eq_true hlt) (Nat.not_lt.2 hge)

theorem isSome_of_gatherDigits {radix : Nat} {y : Double}
    (h : gatherDigits radix y cs = some x) : ∀ c ∈ cs, (radixDigit radix c).isSome = true := by
  induction cs generalizing y with
  | nil => exact List.forall_mem_nil _
  | cons c cs ih =>
    rw [gatherDigits] at h
    split at h
    · next d hd => exact List.forall_mem_cons.2 ⟨by rw [hd]; rfl, ih h⟩
    · cases h

theorem two_pow_width_lt (hmark : (mark, width) ∈ radixMarks) : 2 ^ width < 2 ^ 53 := by
  obtain rfl | rfl | rfl := width_of_mark hmark <;> decide

theorem readRadix_eq_some_iff (hmark : (mark, width) ∈ radixMarks) :
    readRadix (2 ^ width) digits = some x ↔ digits ≠ [] ∧ (∀ c ∈ digits, c ∈ radixDigits width) ∧
      Datum.gather (2 ^ width) (digits.map fun c => (radixDigit (2 ^ width) c).getD 0) =
        .number x := by
  simp only [← isSome_radixDigit_iff hmark]
  constructor
  · intro h
    have hdigits : digits ≠ [] ∧ ∀ c ∈ digits, (radixDigit (2 ^ width) c).isSome = true := by
      rw [readRadix, Option.ite_none_left_eq_some, List.isEmpty_iff] at h
      exact ⟨h.1, isSome_of_gatherDigits h.2⟩
    obtain ⟨y, hread, hgather⟩ :=
      Datum.exists_gather hdigits.2 (two_pow_width_lt hmark) hdigits.1
    obtain rfl := Option.some.inj (hread.symm.trans h)
    exact ⟨hdigits.1, hdigits.2, hgather⟩
  · intro h
    obtain ⟨hne, hdigits, hgather⟩ := h
    obtain ⟨y, hread, hgather'⟩ := Datum.exists_gather hdigits (two_pow_width_lt hmark) hne
    obtain rfl := Datum.number.inj (hgather'.symm.trans hgather)
    exact hread

/-! ## Literals -/

theorem readTrimmed_eq_some_iff : readTrimmed cs = some x ↔ LiteralDenotes cs (.number x) := by
  constructor
  · intro h
    by_cases hne : cs = []
    · subst hne
      obtain rfl := Option.some.inj h
      exact .empty
    by_cases hmark : ∃ mark ∈ radixMarks, ∃ digits, cs = '0' :: mark.1 :: digits
    · obtain ⟨⟨mark, width⟩, hmark, digits, rfl⟩ := hmark
      rw [readTrimmed_mark hmark, readRadix_eq_some_iff hmark] at h
      obtain ⟨hdigits, hall, hgather⟩ := h
      rw [← hgather]
      exact .radix hmark hdigits hall
    · have hnone : ∀ mark ∈ radixMarks, ∀ digits, cs ≠ '0' :: mark.1 :: digits :=
        fun mark hmem digits heq => hmark ⟨mark, hmem, digits, heq⟩
      rw [readTrimmed_eq hne hnone, Option.or_eq_some_iff] at h
      obtain h | ⟨-, h⟩ := h
      · obtain ⟨sign, hsign, rfl, rfl⟩ := readInfinity_eq_some_iff.1 h
        exact .infinity hsign
      · obtain ⟨d, hd, rfl⟩ := Option.map_eq_some_iff.1 h
        obtain ⟨t, ht, rfl, rfl⟩ := readDecimal_eq_some_iff.1 hd
        exact .decimal ht
  · intro h
    generalize hy : Datum.number x = y at h
    cases h with
    | empty =>
      obtain rfl := Datum.number.inj hy
      rfl
    | radix hmark hne hdigits =>
      rw [readTrimmed_mark hmark, readRadix_eq_some_iff hmark]
      exact ⟨hne, hdigits, hy.symm⟩
    | infinity hsign =>
      obtain rfl := Datum.number.inj hy
      obtain rfl | rfl | rfl := hsign <;> rfl
    | decimal ht =>
      obtain rfl := Datum.number.inj hy
      exact ht.readTrimmed_text

theorem LiteralDenotes.exists_number {y : Datum} (h : LiteralDenotes cs y) :
    ∃ x, y = .number x := by
  cases h with
  | radix hmark hne hdigits =>
    simp only [← isSome_radixDigit_iff hmark] at hdigits
    obtain ⟨x, -, hgather⟩ := Datum.exists_gather hdigits (two_pow_width_lt hmark) hne
    exact ⟨x, hgather⟩
  | _ => exact ⟨_, rfl⟩

end

/-- A text is read as a number if and only if it is a literal without the blanks around it. It is
read as what the literal comes to, which is always a number. -/
theorem readNumber_grammar (text : String) :
    ((∃ x, readNumber text = some x) ↔ ∃ y, LiteralDenotes (trim text.toList) y) ∧
      (∀ x, readNumber text = some x ↔ LiteralDenotes (trim text.toList) (.number x)) ∧
      ¬ LiteralDenotes (trim text.toList) .nan := by
  have hread (x : Double) : readNumber text = some x ↔
      LiteralDenotes (trim text.toList) (.number x) := readTrimmed_eq_some_iff
  refine ⟨⟨fun h => ?_, fun h => ?_⟩, hread, fun h => ?_⟩
  · obtain ⟨x, hx⟩ := h
    exact ⟨_, (hread x).1 hx⟩
  · obtain ⟨y, hy⟩ := h
    obtain ⟨x, rfl⟩ := hy.exists_number
    exact ⟨x, (hread x).2 hy⟩
  · obtain ⟨x, hx⟩ := h.exists_number
    cases hx

/-- Other spellings of infinity, marks without digits or after a sign, points and exponents without
digits, blanks and marks between digits, and the digits of other scripts are no numbers. -/
example : ["inf", "infinity", "nan", "NaN", "0x", "+0x1", "-0b1", "0o8", ".", "e5", "1e", "1 2",
    "1_000", "٣"].all (fun text => (readNumber text).isNone) = true := by decide +kernel

end ListenQuery.Number

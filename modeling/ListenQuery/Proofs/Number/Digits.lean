import ListenQuery.Number.Decimal
import ListenQuery.Number.Text
import Mathlib.Tactic.IntervalCases

/-!
# Decimal digits

The digits of a number spell that number, zeros behind them multiply it by powers of ten, and zeros
in front of them change nothing. An integer is told by its digits and its sign.
-/

namespace ListenQuery.Number

theorem toNat_of_isDigit {c : Char} (hc : isDigit c = true) : 48 ≤ c.toNat ∧ c.toNat ≤ 57 := by
  simpa [isDigit, Char.le_def, UInt32.le_iff_toNat_le] using hc

theorem spelled_eq (ds : List Char) : spelled ds = Nat.ofDigitChars 10 ds 0 := rfl

@[simp] theorem spelled_natText (n : Nat) : spelled (natText n) = n :=
  Nat.ofDigitChars_ten_toDigits

theorem isDigit_of_mem_natText {n : Nat} {c : Char} (h : c ∈ natText n) : isDigit c = true :=
  Nat.isDigit_of_mem_toDigits (by decide) (by decide) h

@[simp] theorem natText_ne_nil (n : Nat) : natText n ≠ [] := Nat.toDigits_ne_nil

theorem isDigit_of_mem_zeros {n : Nat} {c : Char} (h : c ∈ zeros n) : isDigit c = true := by
  rw [List.eq_of_mem_replicate h]
  rfl

theorem spelled_append_zeros (ds : List Char) (n : Nat) :
    spelled (ds ++ zeros n) = spelled ds * 10 ^ n := by
  rw [spelled_eq, Nat.ofDigitChars_append, zeros, Nat.ofDigitChars_replicate_zero, Nat.mul_comm,
    spelled_eq]

theorem spelled_zeros_append (n : Nat) (ds : List Char) : spelled (zeros n ++ ds) = spelled ds := by
  rw [spelled_eq, Nat.ofDigitChars_append, zeros, Nat.ofDigitChars_replicate_zero, Nat.mul_zero,
    spelled_eq]

theorem exists_natText_cons {n : Nat} (hn : 0 < n) :
    ∃ first rest, natText n = first :: rest ∧ first ≠ '0' := by
  induction n using Nat.strong_induction_on with
  | _ n ih =>
    rcases Nat.lt_or_ge n 10 with hlt | hge
    · refine ⟨_, [], Nat.toDigits_of_lt_base hlt, ?_⟩
      interval_cases n <;> decide
    · obtain ⟨first, rest, htext, hfirst⟩ := ih (n / 10) (by omega) (by omega)
      refine ⟨first, rest ++ [(n % 10).digitChar], ?_, hfirst⟩
      rw [natText, Nat.toDigits_of_base_le (by decide) hge, ← natText, htext, List.cons_append]

theorem natText_zero : natText 0 = ['0'] := Nat.toDigits_zero 10

theorem digitCount_le_iff {n k : Nat} (hk : 0 < k) : Decimal.digitCount n ≤ k ↔ n < 10 ^ k :=
  Nat.length_toDigits_le_iff (by decide) hk

theorem digitCount_pos (n : Nat) : 0 < Decimal.digitCount n := Nat.length_toDigits_pos

/-! ## Integers -/

theorem filter_isDigit_natText (n : Nat) : (natText n).filter isDigit = natText n :=
  List.filter_eq_self.2 fun _ => isDigit_of_mem_natText

theorem minus_not_mem_natText (n : Nat) : '-' ∉ natText n :=
  fun h => absurd (isDigit_of_mem_natText h) (by decide)

theorem filter_isDigit_intText (n : Int) : (intText n).filter isDigit = natText n.natAbs := by
  have hminus : isDigit '-' = false := rfl
  unfold intText
  split_ifs <;> simp [hminus, filter_isDigit_natText]

theorem minus_mem_intText_iff (n : Int) : '-' ∈ intText n ↔ n < 0 := by
  unfold intText
  split_ifs with hn <;> simp [hn, minus_not_mem_natText]

theorem intText_injective {m n : Int} (h : intText m = intText n) : m = n := by
  have hdigits : m.natAbs = n.natAbs := by
    have hspelled := congrArg (spelled <| List.filter isDigit ·) h
    simpa only [filter_isDigit_intText, spelled_natText] using hspelled
  have hsign : m < 0 ↔ n < 0 := by rw [← minus_mem_intText_iff, h, minus_mem_intText_iff]
  omega

theorem isDigit_of_mem_intText {n : Int} {c : Char} (h : c ∈ intText n) :
    c = '-' ∨ isDigit c = true := by
  unfold intText at h
  split_ifs at h
  · exact (List.mem_cons.1 h).imp id isDigit_of_mem_natText
  · exact .inr (isDigit_of_mem_natText h)

end ListenQuery.Number

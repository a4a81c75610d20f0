import ListenQuery.Proofs.Number.Digits
import ListenQuery.Proofs.Number.Significand

/-!
# Rounding keeps the order

A larger number is not rounded to a smaller double, ties included, and equal ratios are rounded
alike. The size of a decimal only shortens the way to its double: beyond the limits it is rounded to
infinity or to zero in any case.
-/

namespace ListenQuery.Number

namespace Double

/-! ## Ratios -/

theorem RoundsTo.lt_of_odd {p num den : Nat} (h : RoundsTo p num den) (hp : p % 2 = 1) :
    den * (gridValue (p - 1) + gridValue p) < 2 * num ∧
      2 * num < den * (gridValue p + gridValue (p + 1)) := by
  unfold RoundsTo at h
  rwa [if_neg (by omega)] at h

theorem nearestPlace_mono {num den num' den' : Nat} (hden : 0 < den) (hden' : 0 < den')
    (h : num * den' ≤ num' * den) : nearestPlace num den ≤ nearestPlace num' den' := by
  obtain ⟨hrounds, hlow⟩ := @roundsTo_nearestPlace num den hden
  obtain ⟨hrounds', -⟩ := @roundsTo_nearestPlace num' den' hden'
  have htop := nearestPlace_le num den
  generalize nearestPlace num den = p at *
  generalize nearestPlace num' den' = p' at *
  by_contra hlt
  rw [Nat.not_le] at hlt
  have hupper := (hrounds' (hlt.trans_le htop)).weaken.2
  rw [← Nat.mul_add] at hupper
  -- the middle above `p'` is not above the middle below `p`
  have hbelow := gridValue_strictMono.monotone (show p' ≤ p - 1 by omega)
  have habove := gridValue_strictMono.monotone (show p' + 1 ≤ p by omega)
  have hmiddles := Nat.mul_le_mul_left (den * den') (Nat.add_le_add hbelow habove)
  have hlow' := Nat.mul_le_mul_right den' hlow
  have hupper' := Nat.mul_le_mul_right den hupper
  have hcommon (m : Nat) : den * m * den' = den * den' * m ∧ den' * m * den = den * den' * m := by
    constructor <;> ring
  rw [(hcommon _).1, Nat.mul_assoc 2] at hlow'
  rw [(hcommon _).2, Nat.mul_assoc 2] at hupper'
  obtain hodd | heven : p' % 2 = 1 ∨ p' % 2 = 0 := by omega
  · have hstrict := ((hrounds' (hlt.trans_le htop)).lt_of_odd hodd).2
    have hstrict' := Nat.mul_lt_mul_of_pos_right hstrict hden
    rw [(hcommon _).2, Nat.mul_assoc 2] at hstrict'
    omega
  · obtain rfl | hgap : p = p' + 1 ∨ p' + 1 < p := by omega
    · -- a tie between neighbours goes to the even one, and infinity is even
      have hfinite : p' + 1 < infinityPlace := by
        have heven' : infinityPlace % 2 = 0 := by decide
        omega
      have hstrict := ((hrounds hfinite).lt_of_odd (by omega)).1
      have hstrict' := Nat.mul_lt_mul_of_pos_right hstrict hden'
      rw [(hcommon _).1, Nat.mul_assoc 2] at hstrict'
      omega
    · have hgap' := gridValue_strictMono hgap
      have hstrict : gridValue p' + gridValue (p' + 1) < gridValue (p - 1) + gridValue p := by
        omega
      have hstrict' := Nat.mul_lt_mul_of_pos_left hstrict (Nat.mul_pos hden hden')
      omega

theorem nearestPlace_congr {num den num' den' : Nat} (hden : 0 < den) (hden' : 0 < den')
    (h : num * den' = num' * den) : nearestPlace num den = nearestPlace num' den' :=
  Nat.le_antisymm (nearestPlace_mono hden hden' h.le) (nearestPlace_mono hden' hden h.ge)

theorem nearestPlace_gridValue {p : Nat} (hp : p ≤ infinityPlace) :
    nearestPlace (gridValue p) 1 = p := by
  have hnext := gridValue_strictMono (Nat.lt_add_one p)
  rw [nearestPlace, Nat.div_one, floorPlace_eq (Nat.le_refl _) hnext]
  simp only
  split_ifs <;> omega

theorem nearestPlace_zero {den : Nat} (hden : 0 < den) : nearestPlace 0 den = 0 := by
  have hone : nearestPlace 0 1 = 0 := by decide
  have hratio : 0 * 1 = 0 * den := (Nat.zero_mul den).symm
  rw [nearestPlace_congr hden Nat.one_pos hratio, hone]

theorem nearestPlace_of_le {num den : Nat} (hden : 0 < den)
    (h : gridValue infinityPlace * den ≤ num) : nearestPlace num den = infinityPlace := by
  refine Nat.le_antisymm (nearestPlace_le num den) ?_
  have hmono := nearestPlace_mono Nat.one_pos hden (h.trans_eq (Nat.mul_one num).symm)
  rwa [nearestPlace_gridValue (Nat.le_refl _)] at hmono

theorem nearestPlace_of_lt {num den : Nat} (h : 4 * num ≤ den) (hden : 0 < den) :
    nearestPlace num den = 0 := by
  have hquarter : nearestPlace 1 4 = 0 := by decide
  refine Nat.le_zero.1 (hquarter ▸ nearestPlace_mono hden (by decide) ?_)
  omega

end Double

/-! ## Decimals -/

namespace Decimal

open Double

theorem le_digits {n : Nat} (hn : 0 < n) : 10 ^ (digitCount n - 1) ≤ n := by
  rcases Nat.lt_or_ge 1 (digitCount n) with hcount | hcount
  · have hnot : ¬ digitCount n ≤ digitCount n - 1 := by omega
    rwa [digitCount_le_iff (by omega), Nat.not_lt] at hnot
  · rw [show digitCount n - 1 = 0 by omega]
    exact hn

section

variable {digits : Nat} {exponent : Int}

theorem nearestPlace_of_sizeLimit_lt (hdigits : digits ≠ 0)
    (h : sizeLimit < exponent + digitCount digits) :
    nearestPlace (digits * 10 ^ exponent.toNat * unitsInOne) (10 ^ (-exponent).toNat) =
      infinityPlace := by
  rw [sizeLimit] at h
  have hlimit : gridValue infinityPlace ≤ 10 ^ 400 * unitsInOne := by decide +kernel
  have hpower : 10 ^ 400 * 10 ^ (-exponent).toNat ≤ digits * 10 ^ exponent.toNat :=
    calc 10 ^ 400 * 10 ^ (-exponent).toNat
        = 10 ^ (400 + (-exponent).toNat) := (Nat.pow_add _ _ _).symm
      _ ≤ 10 ^ (digitCount digits - 1 + exponent.toNat) :=
          Nat.pow_le_pow_right (by decide) (by omega)
      _ = 10 ^ (digitCount digits - 1) * 10 ^ exponent.toNat := Nat.pow_add _ _ _
      _ ≤ digits * 10 ^ exponent.toNat :=
          Nat.mul_le_mul_right _ (le_digits (Nat.pos_of_ne_zero hdigits))
  generalize 10 ^ 400 = limit at hlimit hpower
  refine nearestPlace_of_le (Nat.pow_pos (by decide)) ?_
  calc gridValue infinityPlace * 10 ^ (-exponent).toNat
      ≤ limit * unitsInOne * 10 ^ (-exponent).toNat := Nat.mul_le_mul_right _ hlimit
    _ = limit * 10 ^ (-exponent).toNat * unitsInOne := Nat.mul_right_comm _ _ _
    _ ≤ digits * 10 ^ exponent.toNat * unitsInOne := Nat.mul_le_mul_right _ hpower

theorem nearestPlace_of_lt_neg_sizeLimit (h : exponent + digitCount digits < -sizeLimit) :
    nearestPlace (digits * 10 ^ exponent.toNat * unitsInOne) (10 ^ (-exponent).toNat) = 0 := by
  rw [sizeLimit] at h
  have hbelow : digits < 10 ^ digitCount digits :=
    (digitCount_le_iff (digitCount_pos digits)).1 (Nat.le_refl _)
  refine nearestPlace_of_lt ?_ (Nat.pow_pos (by decide))
  calc 4 * (digits * 10 ^ exponent.toNat * unitsInOne)
      = digits * 10 ^ exponent.toNat * (4 * unitsInOne) := by ring
    _ ≤ 10 ^ digitCount digits * 10 ^ exponent.toNat * 10 ^ 400 :=
      Nat.mul_le_mul (Nat.mul_le_mul_right _ hbelow.le) (by decide +kernel)
    _ = 10 ^ (digitCount digits + exponent.toNat + 400) := by rw [Nat.pow_add, Nat.pow_add]
    _ ≤ 10 ^ (-exponent).toNat := Nat.pow_le_pow_right (by decide) (by omega)

end

/-- The double of a decimal is the one nearest to it, however large or small it is. -/
theorem toDouble_eq (d : Decimal) : d.toDouble =
    ofRatio d.negative (d.digits * 10 ^ d.exponent.toNat) (10 ^ (-d.exponent).toNat) := by
  obtain ⟨negative, digits, exponent⟩ := d
  rw [toDouble]
  dsimp only
  split_ifs with hzero hlarge hsmall
  · have hden : 0 < 10 ^ (-exponent).toNat := Nat.pow_pos (by decide)
    subst hzero
    simp only [ofRatio, ofUnits, Double.zero, Nat.zero_mul, nearestPlace_zero hden]
  · simp only [ofRatio, ofUnits, Double.infinity, nearestPlace_of_sizeLimit_lt hzero hlarge]
  · simp only [ofRatio, ofUnits, Double.zero, nearestPlace_of_lt_neg_sizeLimit hsmall]
  · cases exponent with
    | ofNat e => simp
    | negSucc e => simp [Int.neg_negSucc]

theorem toDouble_whole (negative : Bool) (n : Nat) :
    toDouble ⟨negative, n, 0⟩ = ofRatio negative n 1 := by
  simp [toDouble_eq]

theorem ofInt_eq_toDouble (k : Int) : ofInt k = toDouble ⟨k < 0, k.natAbs, 0⟩ :=
  (toDouble_whole _ _).symm

end Decimal

end ListenQuery.Number

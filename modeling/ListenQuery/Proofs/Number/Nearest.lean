import ListenQuery.Proofs.Number.Monotone
import Mathlib.Tactic.NormNum

/-!
# Decimals near a double

A decimal is near a place if it lies between the midpoints around it. This depends on the number
alone and not on how many zeros its digits end in, and every decimal near a place is read as the
double there.
-/

namespace ListenQuery.Number

namespace Double

theorem roundsTo_mul {place num den c : Nat} (hc : 0 < c) :
    RoundsTo place (num * c) (den * c) ↔ RoundsTo place num den := by
  have hle (a : Nat) : den * c * a ≤ 2 * (num * c) ↔ den * a ≤ 2 * num := by
    rw [Nat.mul_right_comm, ← Nat.mul_assoc, Nat.mul_le_mul_right_iff hc]
  have hge (a : Nat) : 2 * (num * c) ≤ den * c * a ↔ 2 * num ≤ den * a := by
    rw [Nat.mul_right_comm den, ← Nat.mul_assoc, Nat.mul_le_mul_right_iff hc]
  simp only [RoundsTo, ← Nat.not_le, hle, hge]

theorem roundsTo_congr {place num den num' den' : Nat} (hden : 0 < den) (hden' : 0 < den')
    (h : num * den' = num' * den) : RoundsTo place num den ↔ RoundsTo place num' den' := by
  rw [← roundsTo_mul hden', h, Nat.mul_comm den den', roundsTo_mul hden]

end Double

namespace Decimal

open Double

/-- The decimal `digits * 10 ^ exponent` is rounded to a place. -/
def Near (place digits : Nat) (exponent : Int) : Prop :=
  RoundsTo place (digits * 10 ^ exponent.toNat * unitsInOne) (10 ^ (-exponent).toNat)

theorem near_mul_pow {place digits : Nat} {exponent : Int} (n : Nat) :
    Near place (digits * 10 ^ n) (exponent - n) ↔ Near place digits exponent := by
  refine roundsTo_congr (by positivity) (by positivity) ?_
  have hpow : n + (exponent - n).toNat + (-exponent).toNat =
      exponent.toNat + (-(exponent - n)).toNat := by omega
  calc digits * 10 ^ n * 10 ^ (exponent - n).toNat * unitsInOne * 10 ^ (-exponent).toNat
      = digits * unitsInOne * 10 ^ (n + (exponent - n).toNat + (-exponent).toNat) := by
        rw [Nat.pow_add, Nat.pow_add]; ring
    _ = digits * 10 ^ exponent.toNat * unitsInOne * 10 ^ (-(exponent - n)).toNat := by
        rw [hpow, Nat.pow_add]; ring

theorem unitsInOne_lt : 2 * unitsInOne < 10 ^ 324 := by decide +kernel

theorem lt_of_near {place digits : Nat} {exponent : Int} (hfinite : place < infinityPlace)
    (h : Near place digits exponent) :
    digits * 10 ^ exponent.toNat < 10 ^ ((-exponent).toNat + 309) := by
  obtain ⟨-, hhi⟩ := RoundsTo.weaken h
  have hscale : 0 < 10 ^ (-exponent).toNat := by positivity
  have htop : gridValue (place + 1) < 10 ^ 309 * unitsInOne :=
    (gridValue_strictMono.monotone hfinite).trans_lt (by decide +kernel)
  have hplace : gridValue place < 10 ^ 309 * unitsInOne :=
    (gridValue_strictMono (Nat.lt_add_one place)).trans htop
  rw [Nat.pow_add]
  generalize 10 ^ 309 = limit at htop hplace
  have h₁ := Nat.mul_lt_mul_of_pos_left hplace hscale
  have h₂ := Nat.mul_lt_mul_of_pos_left htop hscale
  rw [← Nat.mul_assoc] at h₁ h₂
  exact Nat.lt_of_mul_lt_mul_right (a := unitsInOne) (by omega)

theorem gt_of_near {place digits : Nat} {exponent : Int} (hpos : 0 < place)
    (h : Near place digits exponent) :
    10 ^ (-exponent).toNat < digits * 10 ^ exponent.toNat * 10 ^ 324 := by
  obtain ⟨hlo, -⟩ := RoundsTo.weaken h
  have hplace : 1 ≤ gridValue place := by
    have := gridValue_strictMono hpos
    omega
  have hle : 10 ^ (-exponent).toNat ≤ digits * 10 ^ exponent.toNat * (2 * unitsInOne) := by
    have := Nat.mul_le_mul_left (10 ^ (-exponent).toNat) hplace
    have heq : digits * 10 ^ exponent.toNat * (2 * unitsInOne) =
      2 * (digits * 10 ^ exponent.toNat * unitsInOne) := by ring
    omega
  have hdigits : 0 < digits * 10 ^ exponent.toNat := by
    by_contra hzero
    have hpow : 0 < 10 ^ (-exponent).toNat := by positivity
    rw [Nat.eq_zero_of_not_pos hzero] at hle
    omega
  exact hle.trans_lt (Nat.mul_lt_mul_of_pos_left unitsInOne_lt hdigits)

theorem size_of_near {place digits : Nat} {exponent : Int} (hpos : 0 < place)
    (hfinite : place < infinityPlace) (h : Near place digits exponent) :
    0 < digits ∧ -324 < exponent + digitCount digits ∧ exponent + digitCount digits ≤ 309 := by
  have hlt := lt_of_near hfinite h
  have hgt := gt_of_near hpos h
  have hdigits : 0 < digits :=
    Nat.pos_of_mul_pos_right (Nat.pos_of_mul_pos_right (Nat.zero_lt_of_lt hgt))
  have hcount := digitCount_pos digits
  have hbelow : digits < 10 ^ digitCount digits := (digitCount_le_iff hcount).1 (Nat.le_refl _)
  rcases Int.le_total 0 exponent with hexp | hexp
  · have hzero : (-exponent).toNat = 0 := by omega
    rw [hzero, Nat.zero_add] at hlt
    have hpow : 10 ^ exponent.toNat < 10 ^ 309 :=
      Nat.lt_of_le_of_lt (Nat.le_mul_of_pos_left _ hdigits) hlt
    have hexp' := (Nat.pow_lt_pow_iff_right (by decide)).1 hpow
    have hle : digitCount digits ≤ 309 - exponent.toNat := by
      refine (digitCount_le_iff (by omega)).2 ?_
      refine Nat.lt_of_mul_lt_mul_right (a := 10 ^ exponent.toNat) ?_
      rwa [← Nat.pow_add, Nat.sub_add_cancel hexp'.le]
    omega
  · have hzero : exponent.toNat = 0 := by omega
    rw [hzero, Nat.pow_zero, Nat.mul_one] at hlt hgt
    have hle : digitCount digits ≤ (-exponent).toNat + 309 := (digitCount_le_iff (by omega)).2 hlt
    have hpow : 10 ^ (-exponent).toNat < 10 ^ (digitCount digits + 324) := by
      rw [Nat.pow_add]
      exact hgt.trans (Nat.mul_lt_mul_of_pos_right hbelow (by positivity))
    have hexp' := (Nat.pow_lt_pow_iff_right (by decide)).1 hpow
    omega

theorem toDouble_of_near {negative : Bool} {place digits : Nat} {exponent : Int}
    (hpos : 0 < place) (hfinite : place < infinityPlace) (h : Near place digits exponent) :
    toDouble ⟨negative, digits, exponent⟩ = ⟨negative, place, hfinite.le⟩ := by
  rw [toDouble_eq, ofRatio, ofUnits]
  simp only [nearestPlace_of_roundsTo (by positivity) hpos hfinite h]

end Decimal
end ListenQuery.Number

import ListenQuery.Proofs.Number.Literal
import Mathlib.Algebra.Order.Field.Power
import Mathlib.Data.Rat.Lemmas
import Mathlib.Tactic.FieldSimp
import Mathlib.Tactic.Positivity
import Mathlib.Tactic.Zify

/-!
# Doubles nearest to rational numbers

A decimal has an exact value, and its double is the nearest one to it, be it read as a literal or
written as the text of a number in data. Rounding keeps the order of rational numbers, as far as it
does not make different numbers alike, and integers of at most 53 bits stay apart.
-/

namespace ListenQuery.Number

namespace Double

/-- The signed place of the double nearest to a number. -/
def signedNearest (x : ℚ) : Int := x.num.sign * nearestPlace (x.num.natAbs * unitsInOne) x.den

section

variable {x y : ℚ} {i j : Int} {m n den : Nat}

theorem signedNearest_neg (x : ℚ) : signedNearest (-x) = -signedNearest x := by
  simp [signedNearest]

theorem signedNearest_of_nonneg (hx : 0 ≤ x) :
    signedNearest x = nearestPlace (x.num.natAbs * unitsInOne) x.den := by
  rcases hx.eq_or_lt with rfl | hpos
  · have hzero : nearestPlace 0 1 = 0 := nearestPlace_zero Nat.one_pos
    rw [signedNearest, Rat.num_zero, Rat.den_zero, Int.natAbs_zero, Nat.zero_mul, hzero]
    rfl
  · rw [signedNearest, Int.sign_eq_one_of_pos (Rat.num_pos.2 hpos), Int.one_mul]

theorem signedNearest_div (n : Nat) (hden : 0 < den) :
    signedNearest (n / den) = nearestPlace (n * unitsInOne) den := by
  obtain ⟨x, hx⟩ : ∃ x : ℚ, x = n / den := ⟨_, rfl⟩
  have hnonneg : 0 ≤ x := hx ▸ by positivity
  have hcross : x.num.natAbs * den = n * x.den := by
    have hxden : (x.den : ℚ) ≠ 0 := Nat.cast_ne_zero.2 x.den_ne_zero
    have hden' : (den : ℚ) ≠ 0 := Nat.cast_ne_zero.2 hden.ne'
    rw [← x.num_div_den, div_eq_div_iff hxden hden'] at hx
    zify
    rw [abs_of_nonneg (Rat.num_nonneg.2 hnonneg)]
    exact_mod_cast hx
  rw [← hx, signedNearest_of_nonneg hnonneg, Nat.cast_inj]
  refine nearestPlace_congr x.den_pos hden ?_
  rw [Nat.mul_right_comm, hcross, Nat.mul_right_comm]

theorem signedNearest_mono_of_nonneg (hx : 0 ≤ x) (h : x ≤ y) :
    signedNearest x ≤ signedNearest y := by
  have hcross : x.num.natAbs * y.den ≤ y.num.natAbs * x.den := by
    zify
    rw [abs_of_nonneg (Rat.num_nonneg.2 hx), abs_of_nonneg (Rat.num_nonneg.2 (hx.trans h))]
    exact (Rat.le_iff x y).1 h
  rw [signedNearest_of_nonneg hx, signedNearest_of_nonneg (hx.trans h), Nat.cast_le]
  refine nearestPlace_mono x.den_pos y.den_pos ?_
  rw [Nat.mul_right_comm, Nat.mul_right_comm y.num.natAbs]
  exact Nat.mul_le_mul_right _ hcross

theorem signedNearest_nonneg (hx : 0 ≤ x) : 0 ≤ signedNearest x := by
  rw [signedNearest_of_nonneg hx]
  exact Int.natCast_nonneg _

theorem signedNearest_mono (h : x ≤ y) : signedNearest x ≤ signedNearest y := by
  rcases le_total 0 x with hx | hx
  · exact signedNearest_mono_of_nonneg hx h
  · have hneg := signedNearest_neg x
    rcases le_total 0 y with hy | hy
    · have := signedNearest_nonneg (neg_nonneg.2 hx)
      have := signedNearest_nonneg hy
      omega
    · have := signedNearest_mono_of_nonneg (neg_nonneg.2 hy) (neg_le_neg h)
      have := signedNearest_neg y
      omega

/-! ## Integers -/

theorem gridValue_nearestPlace_of_le (hn : n ≤ 2 ^ 53) :
    gridValue (nearestPlace (n * unitsInOne) 1) = n * unitsInOne := by
  rcases hn.lt_or_eq with hlt | rfl
  · exact gridValue_nearestPlace_units hlt
  · have hunits : 2 ^ 53 * unitsInOne = 2 ^ 52 * 2 ^ (1 + 1074) := by
      rw [two_pow_add_units 1, ← Nat.mul_assoc]
    have hfinite : placeOf (2 ^ 52) (1 + 1074) ≤ infinityPlace := by decide +kernel
    rw [hunits]
    generalize 1 + 1074 = e at hfinite ⊢
    exact gridValue_nearestPlace (Nat.le_refl _) (by decide) hfinite

theorem nearestPlace_lt_of_lt (h : m < n) (hn : n ≤ 2 ^ 53) :
    nearestPlace (m * unitsInOne) 1 < nearestPlace (n * unitsInOne) 1 := by
  rw [← gridValue_strictMono.lt_iff_lt, gridValue_nearestPlace_of_le hn,
    gridValue_nearestPlace_of_le (h.le.trans hn)]
  exact Nat.mul_lt_mul_of_pos_right h unitsInOne_pos

theorem signedNearest_natCast (n : Nat) :
    signedNearest n = nearestPlace (n * unitsInOne) 1 := by
  have hone := signedNearest_div n Nat.one_pos
  rwa [Nat.cast_one, div_one] at hone

theorem signedNearest_lt_of_nonneg (hi : 0 ≤ i) (h : i < j) (hj : j ≤ 2 ^ 53) :
    signedNearest i < signedNearest j := by
  obtain ⟨m, rfl⟩ := Int.eq_ofNat_of_zero_le hi
  obtain ⟨n, rfl⟩ := Int.eq_ofNat_of_zero_le (hi.trans h.le)
  rw [Int.cast_natCast, Int.cast_natCast, signedNearest_natCast, signedNearest_natCast]
  exact_mod_cast nearestPlace_lt_of_lt (by omega) (by omega)

theorem signedNearest_lt (h : i < j) (hi : i.natAbs ≤ 2 ^ 53) (hj : j.natAbs ≤ 2 ^ 53) :
    signedNearest i < signedNearest j := by
  rcases le_total 0 i with hsign | hsign
  · exact signedNearest_lt_of_nonneg hsign h (by omega)
  · have hneg := signedNearest_neg i
    rcases Int.lt_or_le 0 j with hsign' | hsign'
    · have := signedNearest_nonneg (x := -i) (by exact_mod_cast neg_nonneg.2 hsign)
      have hzero := signedNearest_lt_of_nonneg (Int.le_refl 0) hsign' (by omega)
      have := signedNearest_nonneg (x := ((0 : Int) : ℚ)) (by simp)
      omega
    · have hlt := signedNearest_lt_of_nonneg (i := -j) (j := -i) (by omega) (by omega) (by omega)
      have := signedNearest_neg j
      push_cast at hlt
      omega

theorem compare_signedNearest (hi : i.natAbs ≤ 2 ^ 53) (hj : j.natAbs ≤ 2 ^ 53) :
    compare (signedNearest i) (signedNearest j) = compare i j := by
  rcases lt_trichotomy i j with h | rfl | h
  · rw [compare_lt_iff_lt.2 h, compare_lt_iff_lt.2 (signedNearest_lt h hi hj)]
  · rw [compare_eq_iff_eq.2 rfl, compare_eq_iff_eq.2 rfl]
  · rw [compare_gt_iff_gt.2 h, compare_gt_iff_gt.2 (signedNearest_lt h hj hi)]

end

end Double

/-! ## Decimals -/

namespace Decimal

open Double

def value (d : Decimal) : ℚ :=
  (if d.negative then -1 else 1) * (d.digits * 10 ^ d.exponent)

theorem value_integer (k : Int) : value ⟨k < 0, k.natAbs, 0⟩ = k := by
  rcases Int.lt_or_le k 0 with hneg | hpos
  · simp [value, hneg, abs_of_neg hneg]
  · simp [value, Int.not_lt.2 hpos, abs_of_nonneg hpos]

theorem natCast_ratio (d : Decimal) :
    ((d.digits * 10 ^ d.exponent.toNat : Nat) : ℚ) / (10 ^ (-d.exponent).toNat : Nat) =
      d.digits * 10 ^ d.exponent := by
  obtain ⟨negative, digits, exponent⟩ := d
  push_cast
  rw [mul_div_assoc, ← zpow_natCast, ← zpow_natCast, ← zpow_sub₀ (by norm_num)]
  congr 2
  omega

theorem signedPlace_toDouble (d : Decimal) : d.toDouble.signedPlace = signedNearest d.value := by
  have hden : 0 < 10 ^ (-d.exponent).toNat := Nat.pow_pos (by decide)
  have hnearest := signedNearest_div (d.digits * 10 ^ d.exponent.toNat) hden
  rw [natCast_ratio] at hnearest
  rw [toDouble_eq, signedPlace, ofRatio, ofUnits, value]
  dsimp only
  rw [← hnearest]
  split_ifs
  · rw [neg_one_mul, signedNearest_neg]
  · rw [one_mul]

end Decimal

/-! ## Texts -/

open Text

/-- A text is a decimal, but for blanks around it, and `x` is its exact value. -/
def HasValue (text : String) (x : ℚ) : Prop :=
  ∃ t : DecimalText, t.IsProper ∧ trim text.toList = t.text ∧ t.decimal.value = x

theorem hasValue_iff {text : String} {x : ℚ} :
    HasValue text x ↔ ∃ d, readDecimal (trim text.toList) = some d ∧ d.value = x := by
  constructor
  · intro h
    obtain ⟨t, ht, htext, rfl⟩ := h
    exact ⟨t.decimal, by rw [htext, readDecimal_text ht], rfl⟩
  · intro h
    obtain ⟨d, hd, rfl⟩ := h
    obtain ⟨t, ht, htext, rfl⟩ := readDecimal_eq_some_iff.1 hd
    exact ⟨t, ht, htext, rfl⟩

theorem HasValue.unique {text : String} {x y : ℚ} (hx : HasValue text x) (hy : HasValue text y) :
    x = y := by
  obtain ⟨d, hd, rfl⟩ := hasValue_iff.1 hx
  obtain ⟨e, he, rfl⟩ := hasValue_iff.1 hy
  obtain rfl := Option.some.inj (hd.symm.trans he)
  rfl

theorem HasValue.exists_readNumber {text : String} {x : ℚ} (h : HasValue text x) :
    ∃ y, readNumber text = some y ∧ y.signedPlace = Double.signedNearest x := by
  obtain ⟨t, ht, htext, rfl⟩ := h
  refine ⟨t.decimal.toDouble, ?_, t.decimal.signedPlace_toDouble⟩
  rw [readNumber, htext, ht.readTrimmed_text]

theorem exists_hasValue_text (n : Numeral) :
    ∃ x, HasValue (String.ofList n.text) x ∧ ∀ k hk, n = .integer k hk → x = k := by
  obtain ⟨t, ht, htext, -, hinteger⟩ := exists_decimalText_text n
  refine ⟨t.decimal.value, ⟨t, ht, ?_, rfl⟩, fun k hk hn => ?_⟩
  · rw [String.toList_ofList, ← htext, trim_of_not_blank ht.not_blank]
  · rw [hinteger k hk hn, Decimal.value_integer]

end ListenQuery.Number

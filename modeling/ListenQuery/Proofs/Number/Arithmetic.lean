import ListenQuery.Number.Scaled
import ListenQuery.Proofs.Number.Monotone
import ListenQuery.Proofs.Number.Radix

/-!
# Arithmetic of doubles

Products and sums of doubles are rounded once, and an operation such as zero times infinity, which
has no value, gives no number. Gathering the digits of an integer is a product and a sum for each
digit. Both have a value even after the number has become infinite, so what is gathered is a
number.
-/

namespace ListenQuery.Number

/-- The result of an operation: a double or no number. -/
inductive Datum
  | nan
  | number (x : Double)
  deriving DecidableEq, Repr

namespace Double

def signedUnits (x : Double) : Int :=
  if x.negative then -(gridValue x.place : Int) else gridValue x.place

/-- The double nearest to a sum. It is negative zero only if both parts are negative zeros. -/
def plus (x y : Double) : Double :=
  let sum := x.signedUnits + y.signedUnits
  .ofUnits (if sum = 0 then x.negative && y.negative else sum < 0) sum.natAbs 1

end Double

namespace Datum

def mul : Datum → Datum → Datum
  | number x, number y =>
    if x.isFinite && y.isFinite then number (x.times y)
    else if x.isZero || y.isZero then nan
    else number (.infinity (x.negative != y.negative))
  | _, _ => nan

def add : Datum → Datum → Datum
  | number x, number y =>
    if x.isFinite && y.isFinite then number (x.plus y)
    else if x.isFinite then number y
    else if y.isFinite || x.negative = y.negative then number x
    else nan
  | _, _ => nan

def ofNat (n : Nat) : Datum := number (.ofRatio false n 1)

def shiftIn (radix : Nat) (y : Datum) (d : Nat) : Datum := (y.mul (ofNat radix)).add (ofNat d)

/-- What digits come to, from the first one on. -/
def gather (radix : Nat) (digits : List Nat) : Datum :=
  digits.foldl (shiftIn radix) (number (.zero false))

end Datum

namespace Double

section

variable {x : Double} {d k n p : Nat}

theorem exists_gridValue_mul (p k : Nat) : ∃ q, gridValue q = gridValue p * 2 ^ k := by
  induction k with
  | zero => exact ⟨p, by rw [Nat.pow_zero, Nat.mul_one]⟩
  | succ k ih =>
    obtain ⟨q, hq⟩ := ih
    rcases Nat.lt_or_ge q (2 ^ 52) with hlow | hhigh
    · refine ⟨2 * q, ?_⟩
      rw [Nat.pow_succ, ← Nat.mul_assoc, ← hq, gridValue_eq_self (by omega),
        gridValue_eq_self (by omega), Nat.mul_comm]
    · obtain ⟨c, e, rfl, hlo, hhi⟩ := exists_placeOf hhigh
      refine ⟨placeOf c (e + 1), ?_⟩
      rw [Nat.pow_succ, ← Nat.mul_assoc, ← hq, gridValue_placeOf hlo hhi.le,
        gridValue_placeOf hlo hhi.le, Nat.pow_succ, Nat.mul_assoc]

theorem gridValue_ofRatio (hn : n < 2 ^ 53) :
    gridValue (ofRatio false n 1).place = n * unitsInOne := by
  rw [place_ofRatio, gridValue_nearestPlace_units hn]

theorem isFinite_ofRatio (hn : n < 2 ^ 53) : (ofRatio false n 1).isFinite = true := by
  have hlt : gridValue (ofRatio false n 1).place < gridValue infinityPlace := by
    have hlimit : 2 ^ 53 * unitsInOne < gridValue infinityPlace := by decide +kernel
    rw [gridValue_ofRatio hn]
    exact (Nat.mul_lt_mul_of_pos_right hn unitsInOne_pos).trans hlimit
  simpa [isFinite] using gridValue_strictMono.lt_iff_lt.1 hlt

theorem isZero_ofRatio (hn : n < 2 ^ 53) (hpos : 0 < n) : (ofRatio false n 1).isZero = false := by
  have hvalue := gridValue_ofRatio hn
  rw [isZero, decide_eq_false_iff_not]
  intro hzero
  rw [hzero, gridValue_of_lt (Nat.two_pow_pos 52)] at hvalue
  exact absurd hvalue.symm (Nat.mul_pos hpos unitsInOne_pos).ne'

theorem infinity_of_place {x : Double} (hx : x.negative = false)
    (hplace : x.place = infinityPlace) :
    x = .infinity false := ext_iff.2 ⟨hx, hplace⟩

theorem shiftIn_of_le (h : gridValue infinityPlace ≤ gridValue x.place * 2 ^ k) :
    x.shiftIn (2 ^ k) d = .infinity false := by
  refine infinity_of_place (negative_shiftIn x _ d) ?_
  rw [place_shiftIn_eq]
  refine nearestPlace_of_le Nat.one_pos ?_
  rw [Nat.mul_one]
  exact h.trans (Nat.le_add_right _ _)

theorem times_radix (hx : x.negative = false) (hk : 2 ^ k < 2 ^ 53) :
    (x.times (ofRatio false (2 ^ k) 1)).negative = false ∧
      (x.times (ofRatio false (2 ^ k) 1)).place = nearestPlace (gridValue x.place * 2 ^ k) 1 := by
  rw [times, ofUnits, gridValue_ofRatio hk, hx, negative_ofRatio]
  refine ⟨rfl, nearestPlace_congr unitsInOne_pos Nat.one_pos ?_⟩
  rw [Nat.mul_one, Nat.mul_assoc]

theorem plus_of_nonneg {y : Double} (hx : x.negative = false) (hy : y.negative = false) :
    x.plus y = .ofUnits false (gridValue x.place + gridValue y.place) 1 := by
  have hsum : x.signedUnits + y.signedUnits = (gridValue x.place + gridValue y.place : Nat) := by
    rw [signedUnits, signedUnits, hx, hy]
    rfl
  rw [plus, hsum, hx]
  simp only [Int.natAbs_natCast, Bool.false_and]
  congr 1
  split_ifs with hzero
  · rfl
  · exact decide_eq_false (by omega)

theorem plus_digit {y : Double} (hx : x.negative = false)
    (hplace : gridValue x.place = gridValue y.place * 2 ^ k) (hd : d < 2 ^ 53) :
    x.plus (ofRatio false d 1) = y.shiftIn (2 ^ k) d := by
  rw [plus_of_nonneg hx (negative_ofRatio d), gridValue_ofRatio hd, hplace, shiftIn]

end

end Double

namespace Datum

open Double

section

variable {x y : Double} {d k : Nat}

theorem mul_of_finite (hx : x.isFinite = true) (hy : y.isFinite = true) :
    (number x).mul (number y) = number (x.times y) := by
  rw [mul, hx, hy]
  rfl

theorem mul_of_infinite (hx : x.isFinite = false) (hne : x.isZero = false)
    (hne' : y.isZero = false) :
    (number x).mul (number y) = number (.infinity (x.negative != y.negative)) := by
  rw [mul, hx, hne, hne']
  rfl

theorem add_of_finite (hx : x.isFinite = true) (hy : y.isFinite = true) :
    (number x).add (number y) = number (x.plus y) := by
  rw [add, hx, hy]
  rfl

theorem add_of_infinite (hx : x.isFinite = false) (hy : y.isFinite = true) :
    (number x).add (number y) = number x := by
  rw [add, hx, hy]
  rfl

/-- A product and a sum of doubles are what is gathered from a digit, with no other rounding. -/
theorem shiftIn_number (hx : x.negative = false) (hk : 2 ^ k < 2 ^ 53) (hd : d < 2 ^ 53) :
    (number x).shiftIn (2 ^ k) d = number (x.shiftIn (2 ^ k) d) := by
  have hradix := isFinite_ofRatio hk
  have hdigit := isFinite_ofRatio hd
  have hinfinite : (Double.infinity false).isFinite = false := by decide
  rw [shiftIn, ofNat, ofNat]
  cases hfinite : x.isFinite with
  | true =>
    obtain ⟨hsign, hplace⟩ := times_radix hx hk
    obtain ⟨q, hq⟩ := exists_gridValue_mul x.place k
    rw [mul_of_finite hfinite hradix]
    rcases Nat.lt_or_ge q infinityPlace with hlt | hge
    · rw [← hq, nearestPlace_gridValue hlt.le] at hplace
      have hproduct : (x.times (ofRatio false (2 ^ k) 1)).isFinite = true := by
        rw [isFinite, hplace]
        exact decide_eq_true hlt
      rw [add_of_finite hproduct hdigit, plus_digit hsign (hplace ▸ hq) hd]
    · have hover : gridValue infinityPlace ≤ gridValue x.place * 2 ^ k :=
        hq ▸ gridValue_strictMono.monotone hge
      rw [nearestPlace_of_le Nat.one_pos (by rwa [Nat.mul_one])] at hplace
      rw [infinity_of_place hsign hplace, add_of_infinite hinfinite hdigit, shiftIn_of_le hover]
  | false =>
    have htop : x.place = infinityPlace :=
      Nat.le_antisymm x.place_le (by simpa [isFinite] using hfinite)
    have hover : gridValue infinityPlace ≤ gridValue x.place * 2 ^ k := by
      rw [htop]
      exact Nat.le_mul_of_pos_right _ (Nat.two_pow_pos k)
    have hne : x.isZero = false := by
      rw [isZero, htop]
      decide
    rw [mul_of_infinite hfinite hne (isZero_ofRatio hk (Nat.two_pow_pos k)), hx, negative_ofRatio,
      bne_self_eq_false, add_of_infinite hinfinite hdigit, shiftIn_of_le hover]

theorem gatherDigits_eq {cs : List Char}
    (hcs : ∀ c ∈ cs, (radixDigit (2 ^ k) c).isSome = true) (hk : 2 ^ k < 2 ^ 53)
    (hx : x.negative = false) :
    ∃ y, gatherDigits (2 ^ k) x cs = some y ∧
      (cs.map fun c => (radixDigit (2 ^ k) c).getD 0).foldl (shiftIn (2 ^ k)) (number x) =
        number y := by
  induction cs generalizing x with
  | nil => exact ⟨x, rfl, rfl⟩
  | cons c cs ih =>
    obtain ⟨hc, hcs⟩ := List.forall_mem_cons.1 hcs
    obtain ⟨d, hd⟩ := Option.isSome_iff_exists.1 hc
    obtain ⟨y, hy, hgather⟩ := ih hcs (negative_shiftIn x (2 ^ k) d)
    refine ⟨y, ?_, ?_⟩
    · rw [gatherDigits, hd]
      exact hy
    · rw [List.map_cons, List.foldl_cons, hd, Option.getD_some,
        shiftIn_number hx hk ((radixDigit_lt hd).trans hk)]
      exact hgather

theorem exists_gather {cs : List Char} (hcs : ∀ c ∈ cs, (radixDigit (2 ^ k) c).isSome = true)
    (hk : 2 ^ k < 2 ^ 53) (hne : cs ≠ []) :
    ∃ y, readRadix (2 ^ k) cs = some y ∧
      gather (2 ^ k) (cs.map fun c => (radixDigit (2 ^ k) c).getD 0) = number y := by
  obtain ⟨y, hy, hgather⟩ := gatherDigits_eq hcs hk (x := .zero false) rfl
  refine ⟨y, ?_, hgather⟩
  rw [readRadix, List.isEmpty_eq_false_iff.2 hne]
  exact hy

end

end Datum

end ListenQuery.Number

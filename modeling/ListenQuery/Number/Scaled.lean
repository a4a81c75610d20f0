import ListenQuery.Number.Decimal

/-!
# Scaled numbers

A number in data is gathered into 64 bits and a power of ten: digits of the whole part that do not
fit raise the power, digits of the fraction that do not fit are dropped. Its double is made by
scaling the double nearest to the gathered number by the double nearest to the power, each step
rounded. Where neither needs rounding the result is the nearest double; elsewhere it can be a
neighbour of it.
-/

namespace ListenQuery.Number

namespace Double

def times (x y : Double) : Double :=
  .ofUnits (x.negative != y.negative) (gridValue x.place * gridValue y.place) unitsInOne

def dividedBy (x y : Double) : Double :=
  .ofUnits (x.negative != y.negative) (gridValue x.place * unitsInOne) (gridValue y.place)

def powerOfTen (n : Nat) : Double := .ofRatio false (10 ^ n) 1

def largestPower : Nat := 308

def scaleUp (x : Double) (n : Nat) : Double :=
  if n ≤ largestPower then x.times (powerOfTen n)
  else if x.isZero then x
  else .infinity x.negative

def scaleDown (x : Double) (n : Nat) : Double :=
  if n ≤ largestPower then x.dividedBy (powerOfTen n)
  else if x.isZero then x
  else scaleDown (x.dividedBy (powerOfTen largestPower)) (n - largestPower)
termination_by n
decreasing_by
  unfold largestPower at *
  omega

def scale (x : Double) (exponent : Int) : Double :=
  if exponent < 0 then x.scaleDown exponent.natAbs else x.scaleUp exponent.natAbs

end Double

/-- Adds digits to a number while it fits 64 bits, and counts those that are left. -/
def collect : Nat → List Char → Nat × Nat
  | n, [] => (n, 0)
  | n, c :: rest =>
    let next := 10 * n + digitValue c
    if next < 2 ^ 64 then collect next rest else (n, rest.length + 1)

structure Scaled where
  negative : Bool
  significand : Nat
  exponent : Int
  deriving DecidableEq, Repr

namespace Scaled

/-- Gathers the digits before and after the point of a number that has an exponent of its own. -/
def ofDigits (negative : Bool) (whole fraction : List Char) (exponent : Int) : Scaled :=
  let (n, more) := collect 0 whole
  let (n, dropped) := collect n fraction
  ⟨negative, n, exponent + more - (fraction.length - dropped)⟩

def toDouble (s : Scaled) : Double := (Double.ofRatio s.negative s.significand 1).scale s.exponent

end Scaled

/-- How a number in data becomes a double: by its sign, the digits before and after its point, and
its exponent. -/
class RealReading where
  toDouble (negative : Bool) (whole fraction : List Char) (exponent : Int) : Double

/-- Numbers in data are gathered and scaled. -/
instance : RealReading where
  toDouble negative whole fraction exponent :=
    (Scaled.ofDigits negative whole fraction exponent).toDouble

end ListenQuery.Number

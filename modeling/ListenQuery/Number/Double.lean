/-!
# Doubles as places on a grid

The nonnegative doubles, infinity included, are numbered in order from zero; the number of a
double is its place, and it is also the pattern of its bits. So a double is a sign and a place,
comparison is that of signed places, and rounding is the choice of the nearest place with ties to
the even one. Values are counted in units of two to the power of -1074. The value at the place of
infinity is two to the power of 1024, which makes overflow one more case of rounding.
-/

namespace ListenQuery

-- Powers are those of `Nat` and `Int` themselves, also where a power of monoids is in scope.
attribute [default_instance 20000, scoped instance (high)] instPowNat

namespace Number

def infinityPlace : Nat := 0x7FF0000000000000

structure Double where
  negative : Bool
  place : Nat
  place_le : place ≤ infinityPlace
  deriving DecidableEq, Repr

namespace Double

def unitsInOne : Nat := 2 ^ 1074

def gridValue (place : Nat) : Nat :=
  if place < 2 ^ 52 then place else (2 ^ 52 + place % 2 ^ 52) * 2 ^ (place / 2 ^ 52 - 1)

/-- The last place whose value is at most `v` units. -/
def floorPlace (v : Nat) : Nat :=
  let scale := v.log2 - 52
  scale * 2 ^ 52 + v >>> scale

def nearestPlace (num den : Nat) : Nat :=
  let p := floorPlace (num / den)
  if infinityPlace ≤ p then infinityPlace
  else
    let middle := den * (gridValue p + gridValue (p + 1))
    if 2 * num < middle then p
    else if middle < 2 * num then p + 1
    else if p % 2 = 0 then p else p + 1

theorem nearestPlace_le (num den : Nat) : nearestPlace num den ≤ infinityPlace := by
  unfold nearestPlace
  simp only
  split
  · exact Nat.le_refl _
  · split
    · omega
    · split
      · omega
      · split <;> omega

def ofUnits (negative : Bool) (num den : Nat) : Double :=
  ⟨negative, nearestPlace num den, nearestPlace_le num den⟩

def ofRatio (negative : Bool) (num den : Nat) : Double :=
  ofUnits negative (num * unitsInOne) den

def zero (negative : Bool) : Double := ⟨negative, 0, Nat.zero_le _⟩

def infinity (negative : Bool) : Double := ⟨negative, infinityPlace, Nat.le_refl _⟩

def ofInt (n : Int) : Double := ofRatio (n < 0) n.natAbs 1

def isZero (x : Double) : Bool := x.place = 0

def isFinite (x : Double) : Bool := x.place < infinityPlace

/-- The place with its sign. Both zeros are at zero. -/
def signedPlace (x : Double) : Int := if x.negative then - (x.place : Int) else x.place

def order (x y : Double) : Ordering := compare x.signedPlace y.signedPlace

/-- The bits of the interchange format. -/
def bits (x : Double) : Nat := if x.negative then 2 ^ 63 + x.place else x.place

end Double

end Number

end ListenQuery

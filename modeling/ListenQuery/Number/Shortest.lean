import ListenQuery.Number.Double

/-!
# Shortest digits

The numbers that round to a double form an interval around it, with its ends where the place is
even. Of the decimal grids, from coarse to fine, the first one with a point in that interval gives
the digits: no shorter decimal reads back, and of two points the nearer is taken. Which one is taken
when both are as near is for the format that is written.
-/

namespace ListenQuery.Number

/-- What becomes of a value halfway between two points. -/
inductive Tie
  | up
  | even
  deriving DecidableEq, Repr

def Tie.takesAbove (tie : Tie) (below : Nat) : Bool :=
  match tie with
  | .up => true
  | .even => below % 2 = 1

namespace Double

/-- A point of the grid of multiples of `unit` within the interval from `lo` to `hi`, next to
`value`. -/
def pointNear (tie : Tie) (closed : Bool) (lo value hi unit : Nat) : Option Nat :=
  let below := value / unit
  let rest := 2 * (value % unit)
  let inside (d : Nat) : Bool :=
    if closed then lo ≤ d * unit && d * unit ≤ hi else lo < d * unit && d * unit < hi
  if inside below then
    if inside (below + 1) && (unit < rest || (unit = rest && tie.takesAbove below)) then
      some (below + 1)
    else some below
  else if inside (below + 1) then some (below + 1)
  else none

/-- The point of the grid of multiples of `10 ^ exponent` that reads back as `place`. Half units
make the ends of the interval whole. -/
def pointAt (tie : Tie) (place : Nat) (exponent : Int) : Option Nat :=
  let value := 2 * gridValue place
  let lo := gridValue (place - 1) + gridValue place
  let hi := gridValue place + gridValue (place + 1)
  let closed := place % 2 = 0
  match exponent with
  | .ofNat e => pointNear tie closed lo value hi (2 * unitsInOne * 10 ^ e)
  | .negSucc e =>
    let scale := 10 ^ (e + 1)
    pointNear tie closed (lo * scale) (value * scale) (hi * scale) (2 * unitsInOne)

def coarsestExponent : Int := 309

def shortestFrom (tie : Tie) (place : Nat) : Nat → Int → Nat × Int
  | 0, _ => (0, 0)
  | steps + 1, exponent =>
    match pointAt tie place exponent with
    | some digits => (digits, exponent)
    | none => shortestFrom tie place steps (exponent - 1)

/-- The digits and the power of ten of a finite double other than zero. -/
def shortest (tie : Tie) (place : Nat) : Nat × Int := shortestFrom tie place 640 coarsestExponent

end Double

end ListenQuery.Number

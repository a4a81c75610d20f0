import ListenQuery.Fields
import ListenQuery.Number.Double

/-!
# JSON values

A number is held as an integer when it fits 64 bits, signed or unsigned, and as a finite double
otherwise. The members of an object are kept in the order of their names.
-/

namespace ListenQuery

open Number

inductive Numeral
  | integer (value : Int) (inRange : -2 ^ 63 ≤ value ∧ value < 2 ^ 64)
  | real (value : Double) (finite : value.isFinite = true)
  deriving DecidableEq

def Numeral.toDouble : Numeral → Double
  | .integer n _ => .ofInt n
  | .real x _ => x

inductive Json
  | null
  | bool (value : Bool)
  | number (value : Numeral)
  | string (value : String)
  | array (items : List Json)
  | object (members : List (String × Json))

end ListenQuery

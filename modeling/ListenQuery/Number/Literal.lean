import ListenQuery.Number.Decimal
import ListenQuery.Text.Blank

/-!
# Numeric literals

A literal is a number when, without the blanks around it, it is empty, an integer in base 16, 8
or 2 after `0x`, `0o` or `0b`, one of the three spellings of infinity, or a decimal. An integer in
another base is gathered digit by digit and rounded after each.
-/

namespace ListenQuery.Number

open Text

/-- The value of a digit in base `radix`, ASCII letters of either case included. -/
def radixDigit (radix : Nat) (c : Char) : Option Nat :=
  let value :=
    if '0' ≤ c && c ≤ '9' then c.toNat - 48
    else if 'a' ≤ c && c ≤ 'z' then c.toNat - 87
    else if 'A' ≤ c && c ≤ 'Z' then c.toNat - 55
    else radix
  if value < radix then some value else none

/-- One more digit: the double nearest to `radix * x + digit`. -/
def Double.shiftIn (radix : Nat) (x : Double) (digit : Nat) : Double :=
  .ofUnits false (gridValue x.place * radix + digit * unitsInOne) 1

def gatherDigits (radix : Nat) : Double → List Char → Option Double
  | x, [] => some x
  | x, c :: rest =>
    match radixDigit radix c with
    | some digit => gatherDigits radix (x.shiftIn radix digit) rest
    | none => none

def readRadix (radix : Nat) (digits : List Char) : Option Double :=
  if digits.isEmpty then none else gatherDigits radix (.zero false) digits

def readInfinity (cs : List Char) : Option Double :=
  if cs = "Infinity".toList || cs = "+Infinity".toList then some (.infinity false)
  else if cs = "-Infinity".toList then some (.infinity true)
  else none

def readTrimmed (cs : List Char) : Option Double :=
  match cs with
  | [] => some (.zero false)
  | '0' :: 'x' :: digits => readRadix 16 digits
  | '0' :: 'X' :: digits => readRadix 16 digits
  | '0' :: 'o' :: digits => readRadix 8 digits
  | '0' :: 'O' :: digits => readRadix 8 digits
  | '0' :: 'b' :: digits => readRadix 2 digits
  | '0' :: 'B' :: digits => readRadix 2 digits
  | _ =>
    match readInfinity cs with
    | some x => some x
    | none => (readDecimal cs).map Decimal.toDouble

def readNumber (literal : String) : Option Double := readTrimmed (trim literal.toList)

def lowerAscii (c : Char) : Char := if 'A' ≤ c && c ≤ 'Z' then Char.ofNat (c.toNat + 32) else c

/-- Empty text, `false` and numbers equal to zero are false; all other literals are true. -/
def literalIsTruthy (literal : String) : Bool :=
  if literal.isEmpty || literal.toList.map lowerAscii = "false".toList then false
  else match readNumber literal with
    | some x => ! x.isZero
    | none => true

end ListenQuery.Number

import ListenQuery.Number.Double

/-!
# Decimal numbers

A decimal is a sign, its digits read as one natural number, and a power of ten. It stands for the
nearest double. Powers far outside the range of doubles are settled by the size of the number, so
that an exponent of any length is harmless.
-/

namespace ListenQuery.Number

structure Decimal where
  negative : Bool
  digits : Nat
  exponent : Int
  deriving DecidableEq, Repr

namespace Decimal

def digitCount (n : Nat) : Nat := (Nat.toDigits 10 n).length

/-- All powers of ten of at least this size are infinite, and all below its inverse are zero. -/
def sizeLimit : Int := 400

def toDouble (d : Decimal) : Double :=
  if d.digits = 0 then .zero d.negative
  else
    let size := d.exponent + digitCount d.digits
    if sizeLimit < size then .infinity d.negative
    else if size < -sizeLimit then .zero d.negative
    else match d.exponent with
      | .ofNat e => .ofRatio d.negative (d.digits * 10 ^ e) 1
      | .negSucc e => .ofRatio d.negative d.digits (10 ^ (e + 1))

end Decimal

def isDigit (c : Char) : Bool := '0' ≤ c && c ≤ '9'

def digitValue (c : Char) : Nat := c.toNat - 48

/-- The number that a run of decimal digits spells. -/
def spelled (digits : List Char) : Nat := digits.foldl (fun n c => 10 * n + digitValue c) 0

def readSign : List Char → Bool × List Char
  | '-' :: rest => (true, rest)
  | '+' :: rest => (false, rest)
  | rest => (false, rest)

def readExponent : List Char → Option Int
  | [] => some 0
  | c :: rest =>
    if c = 'e' || c = 'E' then
      let (negative, digits) := readSign rest
      if digits.isEmpty || ! digits.all isDigit then none
      else some (if negative then - (spelled digits : Int) else spelled digits)
    else none

/-- Digits with at most one point and at least one digit, and an exponent. -/
def readUnsigned (negative : Bool) (cs : List Char) : Option Decimal :=
  let whole := cs.takeWhile isDigit
  let rest := cs.dropWhile isDigit
  let (fraction, rest) := match rest with
    | '.' :: after => (after.takeWhile isDigit, after.dropWhile isDigit)
    | _ => ([], rest)
  if whole.isEmpty && fraction.isEmpty then none
  else (readExponent rest).map fun e =>
    ⟨negative, spelled (whole ++ fraction), e - fraction.length⟩

def readDecimal (cs : List Char) : Option Decimal :=
  let (negative, rest) := readSign cs
  readUnsigned negative rest

end ListenQuery.Number

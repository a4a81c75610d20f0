import ListenQuery.Number.Shortest

/-!
# Number texts

The shortest digits of a double are laid out in two ways. The plain layout never has an exponent,
and its ties go up. The data layout keeps a fraction, `.0` at least, for decimal exponents from -5
to 15, and is scientific elsewhere with a signed exponent; its ties go to the even digit.
-/

namespace ListenQuery.Number

def natText (n : Nat) : List Char := Nat.toDigits 10 n

def intText (n : Int) : List Char :=
  if n < 0 then '-' :: natText n.natAbs else natText n.natAbs

def zeros (n : Nat) : List Char := List.replicate n '0'

/-- Digits with the point after the first `pointAt` of them. -/
def positional (digits : List Char) (pointAt : Int) (whole : List Char) : List Char :=
  if (digits.length : Int) ≤ pointAt then
    digits ++ zeros (pointAt - digits.length).toNat ++ whole
  else if 0 < pointAt then digits.take pointAt.toNat ++ '.' :: digits.drop pointAt.toNat
  else '0' :: '.' :: zeros (-pointAt).toNat ++ digits

def scientific (digits : List Char) (exponent : Int) : List Char :=
  let mantissa := match digits with
    | first :: second :: rest => first :: '.' :: second :: rest
    | _ => digits
  mantissa ++ 'e' :: (if exponent < 0 then '-' else '+') :: natText exponent.natAbs

def signed (negative : Bool) (cs : List Char) : List Char :=
  if negative then '-' :: cs else cs

namespace Double

/-- The layout without an exponent. -/
def plainText (x : Double) : List Char :=
  signed x.negative <|
    if x.place = 0 then ['0']
    else if ! x.isFinite then "inf".toList
    else
      let (digits, exponent) := shortest .up x.place
      let ds := natText digits
      positional ds (ds.length + exponent) []

/-- The layout of data: always a fraction or an exponent. -/
def dataText (x : Double) : List Char :=
  signed x.negative <|
    if x.place = 0 then "0.0".toList
    else
      let (digits, exponent) := shortest .even x.place
      let ds := natText digits
      let point := (ds.length : Int) + exponent
      if -5 < point && point ≤ 16 then positional ds point ".0".toList
      else scientific ds (point - 1)

end Double

end ListenQuery.Number

import ListenQuery.Number.Decimal
import ListenQuery.Number.Text
import ListenQuery.Text.Blank
import ListenQuery.Time.Calendar

/-!
# Times as text

A time is given in seconds since 1970, as a date with a time of day and an offset, as a date with
a time of day in UTC, or as a date alone. With an offset every field has its full width. Without
one, blanks may stand before a number, months, days, hours, minutes and seconds may be shortened
to one digit, and a year may have a sign and then any width. Fractions of a second are dropped and
a leap second counts as the one before it.
-/

namespace ListenQuery

open Number Text

abbrev Timestamp := Int64

namespace Timestamp

/-- Takes between `least` and `most` digits, as many as there are. -/
def digits (least most : Nat) (cs : List Char) : Option (Nat × List Char) :=
  let ds := (cs.take most).takeWhile isDigit
  if ds.length < least then none else some (spelled ds, cs.drop ds.length)

def expect (c : Char) : List Char → Option (List Char)
  | d :: rest => if d = c then some rest else none
  | [] => none

/-- A number of one or two digits within bounds, after any blanks. -/
def shortNumber (lo hi : Nat) (cs : List Char) : Option (Nat × List Char) := do
  let (n, cs) ← digits 1 2 (trimStart cs)
  if lo ≤ n ∧ n ≤ hi then some (n, cs) else none

def fullNumber (lo hi : Nat) (cs : List Char) : Option (Nat × List Char) := do
  let (n, cs) ← digits 2 2 cs
  if lo ≤ n ∧ n ≤ hi then some (n, cs) else none

def year (cs : List Char) : Option (Int × List Char) :=
  match trimStart cs with
  | '-' :: rest => (digits 1 rest.length rest).map fun (n, cs) => (-(n : Int), cs)
  | '+' :: rest => (digits 1 rest.length rest).map fun (n, cs) => ((n : Int), cs)
  | rest => (digits 1 4 rest).map fun (n, cs) => ((n : Int), cs)

def checked (d : Date) : Option Date :=
  if Date.firstYear ≤ d.year && d.year ≤ Date.lastYear && d.isValid then some d else none

def date (cs : List Char) : Option (Date × List Char) := do
  let (year, cs) ← year cs
  let cs ← expect '-' cs
  let (month, cs) ← shortNumber 1 12 cs
  let cs ← expect '-' cs
  let (day, cs) ← shortNumber 1 31 cs
  let d ← checked ⟨year, month, day⟩
  some (d, cs)

/-- Drops a fraction of a second, which has at least one digit. -/
def skipFraction : List Char → Option (List Char)
  | '.' :: rest =>
    let after := rest.dropWhile isDigit
    if after.length < rest.length then some after else none
  | cs => some cs

/-- The second of the day; a leap second is second 60. -/
def daySecond (hour minute second : Nat) : Nat := 3600 * hour + 60 * minute + min second 59

def timeOfDay (withSeconds : Bool) (cs : List Char) : Option (Nat × List Char) := do
  let (hour, cs) ← shortNumber 0 23 cs
  let cs ← expect ':' cs
  let (minute, cs) ← shortNumber 0 59 cs
  if withSeconds then
    let cs ← expect ':' cs
    let (second, cs) ← shortNumber 0 60 cs
    let cs ← skipFraction cs
    some (daySecond hour minute second, cs)
  else some (daySecond hour minute 0, cs)

def seconds (d : Date) (second : Int) : Int := 86400 * d.dayNumber + second

def finished {α : Type} : α × List Char → Option α
  | (x, []) => some x
  | (_, _ :: _) => none

/-- A date and a time of day in UTC, with the letter `T` or any blanks between them. -/
def readLocal (letter withSeconds : Bool) (cs : List Char) : Option Int := do
  let (d, cs) ← date cs
  let cs ← if letter then expect 'T' cs else some cs
  let second ← finished (← timeOfDay withSeconds cs)
  some (seconds d second)

/-- The seconds of an offset such as `+01:00`, at most a minute short of a day. -/
def offset (cs : List Char) : Option (Int × List Char) :=
  match cs with
  | 'Z' :: rest => some (0, rest)
  | 'z' :: rest => some (0, rest)
  | '+' :: rest => magnitude 1 rest
  | '-' :: rest => magnitude (-1) rest
  | '−' :: rest => magnitude (-1) rest
  | _ => none
where
  magnitude (sign : Int) (cs : List Char) : Option (Int × List Char) := do
    let (hour, cs) ← fullNumber 0 23 cs
    let cs ← expect ':' cs
    let (minute, cs) ← fullNumber 0 59 cs
    some (sign * (3600 * hour + 60 * minute : Nat), cs)

def separator : List Char → Option (List Char)
  | c :: rest => if c = 'T' || c = 't' || c = ' ' then some rest else none
  | [] => none

/-- A date and a time of day with an offset, all at full width. -/
def readWithOffset (cs : List Char) : Option Int := do
  let (year, cs) ← digits 4 4 cs
  let cs ← expect '-' cs
  let (month, cs) ← fullNumber 1 12 cs
  let cs ← expect '-' cs
  let (day, cs) ← fullNumber 1 31 cs
  let cs ← separator cs
  let (hour, cs) ← fullNumber 0 23 cs
  let cs ← expect ':' cs
  let (minute, cs) ← fullNumber 0 59 cs
  let cs ← expect ':' cs
  let (second, cs) ← fullNumber 0 60 cs
  let cs ← skipFraction cs
  let offset ← finished (← offset cs)
  let d ← checked ⟨year, month, day⟩
  some (seconds d (daySecond hour minute second) - offset)

def readDate (cs : List Char) : Option Int := do
  let d ← finished (← date cs)
  some (seconds d 0)

def inRange (n : Int) : Option Int64 :=
  if -2 ^ 63 ≤ n && n < 2 ^ 63 then some (Int64.ofInt n) else none

def readInteger (cs : List Char) : Option Int :=
  let (negative, ds) := match cs with
    | '-' :: rest => (true, rest)
    | _ => (false, cs)
  if ! ds.isEmpty && ds.all isDigit then
    some (if negative then - (spelled ds : Int) else spelled ds)
  else none

def read (text : String) : Option Timestamp :=
  let cs := trim text.toList
  match readInteger cs with
  | some n => inRange n
  | none =>
    ((readWithOffset cs).or <| (readLocal true true cs).or <| (readLocal false true cs).or <|
      (readLocal true false cs).or <| (readLocal false false cs).or (readDate cs)).bind inRange

def padded (width n : Nat) : List Char :=
  let ds := natText n
  List.replicate (width - ds.length) '0' ++ ds

/-- Years of four digits have no sign, and others always have one. -/
def yearText (year : Int) : List Char :=
  if 0 ≤ year && year ≤ 9999 then padded 4 year.toNat
  else (if year < 0 then '-' else '+') :: padded 4 year.natAbs

/-- The date and time with the offset `+00:00`, or the seconds themselves where the year is out of
the range of dates. -/
def text (t : Timestamp) : String :=
  let n := t.toInt
  let d := Date.ofDayNumber (n / 86400)
  let second := (n % 86400).toNat
  if Date.firstYear ≤ d.year && d.year ≤ Date.lastYear then
    String.ofList (yearText d.year ++ '-' :: padded 2 d.month ++ '-' :: padded 2 d.day ++
      'T' :: padded 2 (second / 3600) ++ ':' :: padded 2 (second / 60 % 60) ++
      ':' :: padded 2 (second % 60) ++ "+00:00".toList)
  else String.ofList (intText n)

end Timestamp

end ListenQuery

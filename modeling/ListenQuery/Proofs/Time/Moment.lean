import ListenQuery.Proofs.Number.DataText
import ListenQuery.Time.Timestamp
import Mathlib.Algebra.Order.Field.Basic
import Mathlib.Data.Rat.Floor
import Mathlib.Tactic.FieldSimp
import Mathlib.Tactic.Linarith

/-!
# Moments as they are written

The ways to write a time, each with its parts, its text and the instant it denotes. A second may
have a fraction of any number of digits, and an instant keeps it. Without its fraction an instant is
a whole number of seconds, and this is the instant rounded down, before 1970 too and whatever the
offset. A leap second has no instant of its own.
-/

namespace ListenQuery

open Number Text

namespace Timestamp

/-! ## Fields -/

/-- The digits of a number in a text, with the blanks before them. -/
structure Field where
  blanks : List Char
  digits : List Char

def Field.text (f : Field) : List Char := f.blanks ++ f.digits

def Field.value (f : Field) : Nat := spelled f.digits

structure Field.IsProper (f : Field) (lo hi : Nat) : Prop where
  blank : ∀ c ∈ f.blanks, isBlank c = true
  digits : AreDigits f.digits
  width : 1 ≤ f.digits.length ∧ f.digits.length ≤ 2
  bounds : lo ≤ f.value ∧ f.value ≤ hi

structure Field.IsFull (f : Field) : Prop where
  blank : f.blanks = []
  width : f.digits.length = 2

def StopsDigits (rest : List Char) : Prop := ∀ c ∈ rest.head?, isDigit c = false

def Field.EndsBefore (f : Field) (rest : List Char) : Prop :=
  f.digits.length = 2 ∨ StopsDigits rest

/-! ## Dates -/

/-- A year in a text. Without a sign it has at most four digits. -/
structure YearText where
  blanks : List Char
  sign : List Char
  digits : List Char

namespace YearText

def text (y : YearText) : List Char := y.blanks ++ (y.sign ++ y.digits)

def value (y : YearText) : Int :=
  if y.sign = ['-'] then -(spelled y.digits : Int) else spelled y.digits

structure IsProper (y : YearText) : Prop where
  blank : ∀ c ∈ y.blanks, isBlank c = true
  sign : y.sign = ['-'] ∨ y.sign = ['+'] ∨ y.sign = [] ∧ y.digits.length ≤ 4
  digits : AreDigits y.digits
  ne_nil : y.digits ≠ []

structure IsFull (y : YearText) : Prop where
  blank : y.blanks = []
  sign : y.sign = []
  width : y.digits.length = 4

end YearText

structure DateText where
  year : YearText
  month : Field
  day : Field

namespace DateText

def text (d : DateText) : List Char :=
  d.year.text ++ '-' :: (d.month.text ++ '-' :: d.day.text)

def date (d : DateText) : Date := ⟨d.year.value, d.month.value, d.day.value⟩

structure IsProper (d : DateText) : Prop where
  year : d.year.IsProper
  month : d.month.IsProper 1 12
  day : d.day.IsProper 1 31
  kept : Date.firstYear ≤ d.date.year ∧ d.date.year ≤ Date.lastYear
  valid : d.date.isValid = true

structure IsFull (d : DateText) : Prop where
  year : d.year.IsFull
  month : d.month.IsFull
  day : d.day.IsFull

end DateText

/-! ## Times of day -/

def fractionText (ds : List Char) : List Char := if ds = [] then [] else '.' :: ds

def fractionValue (ds : List Char) : ℚ := spelled ds / 10 ^ ds.length

/-- A fraction goes on to the last digit, and none is left out that could be there. -/
def FractionEnds (ds rest : List Char) : Prop :=
  if ds = [] then rest.head? ≠ some '.' else StopsDigits rest

structure SecondText where
  second : Field
  fraction : List Char

namespace SecondText

def text (s : SecondText) : List Char := s.second.text ++ fractionText s.fraction

structure IsProper (s : SecondText) : Prop where
  second : s.second.IsProper 0 60
  fraction : AreDigits s.fraction

structure EndsBefore (s : SecondText) (rest : List Char) : Prop where
  second : s.second.EndsBefore (fractionText s.fraction ++ rest)
  fraction : FractionEnds s.fraction rest

end SecondText

/-- A time of day in a text. The seconds may be left out. -/
structure ClockText where
  hour : Field
  minute : Field
  second : Option SecondText

namespace ClockText

def secondText (c : ClockText) : List Char :=
  match c.second with
  | none => []
  | some s => ':' :: s.text

def text (c : ClockText) : List Char :=
  c.hour.text ++ ':' :: (c.minute.text ++ c.secondText)

structure IsProper (c : ClockText) : Prop where
  hour : c.hour.IsProper 0 23
  minute : c.minute.IsProper 0 59
  second : ∀ s ∈ c.second, s.IsProper

structure IsFull (c : ClockText) : Prop where
  hour : c.hour.IsFull
  minute : c.minute.IsFull
  second : ∃ s, c.second = some s ∧ s.second.IsFull

def EndsBefore (c : ClockText) (rest : List Char) : Prop :=
  match c.second with
  | none => c.minute.EndsBefore rest
  | some s => s.EndsBefore rest

def secondValue (c : ClockText) : Nat :=
  match c.second with
  | none => 0
  | some s => s.second.value

def fraction (c : ClockText) : ℚ :=
  match c.second with
  | none => 0
  | some s => fractionValue s.fraction

def instant (c : ClockText) : ℚ :=
  3600 * c.hour.value + 60 * c.minute.value + c.secondValue + c.fraction

/-- The second of the day that is read, without the fraction and with no leap second. -/
def wholeSecond (c : ClockText) : Nat := daySecond c.hour.value c.minute.value c.secondValue

end ClockText

/-! ## Offsets -/

inductive Zone
  | utc (letter : Char)
  | shift (sign : Char) (hour minute : Field)

namespace Zone

def text : Zone → List Char
  | utc letter => [letter]
  | shift sign hour minute => sign :: (hour.text ++ ':' :: minute.text)

def seconds : Zone → Int
  | utc _ => 0
  | shift sign hour minute =>
    (if sign = '+' then 1 else -1) * (3600 * hour.value + 60 * minute.value : Nat)

inductive IsProper : Zone → Prop
  | utc {letter : Char} (h : letter = 'Z' ∨ letter = 'z') : IsProper (.utc letter)
  | shift {sign : Char} {hour minute : Field} (hsign : sign = '+' ∨ sign = '-' ∨ sign = '−')
    (hhour : hour.IsProper 0 23) (hhour' : hour.IsFull) (hminute : minute.IsProper 0 59)
    (hminute' : minute.IsFull) : IsProper (.shift sign hour minute)

end Zone

/-! ## Moments -/

/-- A time as it is written: in seconds since 1970, as a date, as a date with a time of day in UTC,
or as a date with a time of day and an offset. -/
inductive Moment
  | seconds (negative : Bool) (ds : List Char)
  | date (d : DateText)
  | inUtc (d : DateText) (letter : Bool) (c : ClockText)
  | withOffset (d : DateText) (separator : Char) (c : ClockText) (zone : Zone)

namespace Moment

def letterText (letter : Bool) : List Char := if letter then ['T'] else []

def text : Moment → List Char
  | seconds negative ds => signed negative ds
  | date d => d.text
  | inUtc d letter c => d.text ++ (letterText letter ++ c.text)
  | withOffset d separator c zone => d.text ++ separator :: (c.text ++ zone.text)

inductive IsProper : Moment → Prop
  | seconds (negative : Bool) {ds : List Char} (hds : AreDigits ds) (hne : ds ≠ []) :
    IsProper (.seconds negative ds)
  | date {d : DateText} (hd : d.IsProper) : IsProper (.date d)
  | inUtc {d : DateText} {letter : Bool} {c : ClockText} (hd : d.IsProper) (hc : c.IsProper)
    (hgap : d.day.EndsBefore (letterText letter ++ c.text)) : IsProper (.inUtc d letter c)
  | withOffset {d : DateText} {separator : Char} {c : ClockText} {zone : Zone} (hd : d.IsProper)
    (hd' : d.IsFull) (hseparator : separator = 'T' ∨ separator = 't' ∨ separator = ' ')
    (hc : c.IsProper) (hc' : c.IsFull) (hzone : zone.IsProper) :
    IsProper (.withOffset d separator c zone)

def instant : Moment → ℚ
  | seconds negative ds => if negative then -spelled ds else spelled ds
  | date d => 86400 * d.date.dayNumber
  | inUtc d _ c => 86400 * d.date.dayNumber + c.instant
  | withOffset d _ c zone => 86400 * d.date.dayNumber + c.instant - zone.seconds

/-- The second is not a leap second. -/
def HasInstant : Moment → Prop
  | seconds _ _ => True
  | date _ => True
  | inUtc _ _ c => c.secondValue ≤ 59
  | withOffset _ _ c _ => c.secondValue ≤ 59

def wholeSeconds : Moment → Int
  | seconds negative ds => if negative then -spelled ds else spelled ds
  | date d => Timestamp.seconds d.date 0
  | inUtc d _ c => Timestamp.seconds d.date c.wholeSecond
  | withOffset d _ c zone => Timestamp.seconds d.date c.wholeSecond - zone.seconds

end Moment

/-! ## Instants rounded down -/

theorem fractionValue_nonneg (ds : List Char) : 0 ≤ fractionValue ds := by
  unfold fractionValue
  positivity

theorem fractionValue_lt_one {ds : List Char} (hds : AreDigits ds) : fractionValue ds < 1 := by
  rw [fractionValue, div_lt_one (by positivity)]
  exact_mod_cast spelled_lt hds

namespace ClockText

variable {c : ClockText}

theorem IsProper.fraction_bounds (h : c.IsProper) : 0 ≤ c.fraction ∧ c.fraction < 1 := by
  unfold fraction
  split
  · exact ⟨le_refl 0, zero_lt_one⟩
  · next s hs => exact ⟨fractionValue_nonneg _, fractionValue_lt_one (h.second s hs).fraction⟩

theorem instant_eq (h : c.secondValue ≤ 59) : c.instant = c.wholeSecond + c.fraction := by
  rw [instant, wholeSecond, daySecond, Nat.min_eq_left h]
  push_cast
  rfl

end ClockText

theorem Moment.wholeSeconds_eq_floor {m : Moment} (h : m.IsProper) (hinstant : m.HasInstant) :
    m.wholeSeconds = ⌊m.instant⌋ := by
  symm
  rw [Int.floor_eq_iff]
  cases h with
  | seconds negative hds hne => cases negative <;> simp [wholeSeconds, instant]
  | date hd => simp [wholeSeconds, instant, Timestamp.seconds]
  | inUtc hd hc hgap =>
    obtain ⟨hnonneg, hlt⟩ := hc.fraction_bounds
    rw [wholeSeconds, instant, ClockText.instant_eq hinstant, Timestamp.seconds]
    push_cast
    constructor <;> linarith
  | withOffset hd hd' hseparator hc hc' hzone =>
    obtain ⟨hnonneg, hlt⟩ := hc.fraction_bounds
    rw [wholeSeconds, instant, ClockText.instant_eq hinstant, Timestamp.seconds]
    push_cast
    constructor <;> linarith

end Timestamp

end ListenQuery

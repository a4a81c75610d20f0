import ListenQuery.Unicode.Canonical
import ListenQuery.Collation.Alphabet
import ListenQuery.Collation.Variants

/-!
# Collation elements

A character, or a contraction of several, stands for a list of elements with three weights each.
Letters of the alphabet are numbered in order; Han characters come after them, unassigned
characters after those, and marks have the primary weight zero.
-/

namespace ListenQuery.Collation

open Unicode

structure Element where
  primary : Nat
  secondary : Nat
  tertiary : Nat
  deriving Repr, DecidableEq

def plainSecondary : Nat := 1

/-- Small kana alone have a lower tertiary weight. -/
def plainTertiary : Nat := 2

def Element.letter (primary : Nat) : Element := ⟨primary, plainSecondary, plainTertiary⟩

structure Reading where
  letter : List Nat
  secondary : Nat
  tertiary : Nat

def weightField (plain : Nat) (digits : List Char) : Nat :=
  if digits.isEmpty then plain else decimalNumber digits

def Reading.read (word : List Char) : Reading :=
  let fields := cutWhere (· = ':') word
  let letter := fields.getD 0 []
  ⟨if letter.isEmpty then [] else readSequence letter,
    weightField plainSecondary (fields.getD 1 []), weightField plainTertiary (fields.getD 2 [])⟩

def readReadings (word : List Char) : List Reading :=
  (cutWhere (· = ',') word).map Reading.read

def isSequence (word : List Char) : Bool :=
  (word.takeWhile (· ≠ '=')).contains '+'

def numberWords : Nat → List (List Char) → List (List Char × Nat)
  | _, [] => []
  | n, word :: rest =>
    (word, n) :: numberWords (if isSequence word then n + 1 else n + (Run.read word).size) rest

def numberedWords : List (List Char × Nat) := numberWords 1 (words alphabetText)

def letters : Chart Nat :=
  .ofSpans ((numberedWords.filter (! isSequence ·.1)).map fun (word, n) => ⟨Run.read word, n⟩)

/-- Contractions that are letters of the alphabet. -/
def contractionLetters : List (List Nat × Nat) :=
  (numberedWords.filter (isSequence ·.1)).map fun (word, n) => (readSequence word, n)

def variants : Chart (List Reading) :=
  .ofSpans (((words variantText).filter (! isSequence ·)).map fun word =>
    let (run, readings) := readEntry word
    ⟨run, readReadings readings⟩)

def ignorables : Chart Unit :=
  .ofSpans ((readRuns ignorableText).map fun run => ⟨run, ()⟩)

/-- The unified ideographs that are sorted first, by code point. -/
def coreHan : List Run :=
  [⟨0x4E00, 0x9FFF⟩, ⟨0xFA0E, 0xFA0F⟩, ⟨0xFA11, 0xFA11⟩, ⟨0xFA13, 0xFA14⟩, ⟨0xFA1F, 0xFA1F⟩,
    ⟨0xFA21, 0xFA21⟩, ⟨0xFA23, 0xFA24⟩, ⟨0xFA27, 0xFA29⟩]

def extensionHan : List Run :=
  [⟨0x3400, 0x4DBF⟩, ⟨0x20000, 0x2A6DF⟩, ⟨0x2A700, 0x2B739⟩, ⟨0x2B740, 0x2B81D⟩,
    ⟨0x2B820, 0x2CEA1⟩, ⟨0x2CEB0, 0x2EBE0⟩, ⟨0x2EBF0, 0x2EE5D⟩, ⟨0x30000, 0x3134A⟩,
    ⟨0x31350, 0x323AF⟩]

/-- The primary weight of a character outside the alphabet. The replacement character and U+FFFF
are the highest of all. -/
def implicitPrimary (n : Nat) : Nat :=
  if n = 0xFFFF then 0x800001
  else if n = 0xFFFD then 0x800000
  else if coreHan.any (·.contains n) then 0x200000 + n
  else if extensionHan.any (·.contains n) then 0x400000 + n
  else 0x600000 + n

def primaryOf (n : Nat) : Nat :=
  match letters.find? n with
  | some span => span.value + (n - span.first)
  | none => implicitPrimary n

def contractionPrimary (letter : List Nat) : Nat :=
  match contractionLetters.lookup letter with
  | some n => n
  | none => 0

/-- The element of a reading; `offset` is the place in the run that the reading is for. -/
def Reading.element (offset : Nat) (r : Reading) : Element :=
  match r.letter with
  | [] => ⟨0, r.secondary, r.tertiary⟩
  | [n] => ⟨primaryOf (n + offset), r.secondary, r.tertiary⟩
  | letter => ⟨contractionPrimary letter, r.secondary, r.tertiary⟩

def elementsOf (n : Nat) : List Element :=
  match variants.find? n with
  | some span => span.value.map (Reading.element (n - span.first))
  | none => if (ignorables.find? n).isSome then [] else [.letter (primaryOf n)]

end ListenQuery.Collation

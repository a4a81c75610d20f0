import ListenQuery.Unicode.Chart
import ListenQuery.Unicode.Data

/-!
# Canonical form

A text is decomposed character by character, and then each mark moves in front of the marks of
higher combining class that precede it. Starters, of class zero, are never crossed.
-/

namespace ListenQuery.Unicode

/-- Splits `C0-C5=41+300` at the equals sign. -/
def readEntry (word : List Char) : Run × List Char :=
  (Run.read (word.takeWhile (· ≠ '=')), (word.dropWhile (· ≠ '=')).drop 1)

def decompositions : Chart (List Nat) :=
  .ofSpans ((words decompositionText).map fun word =>
    let (run, letters) := readEntry word
    ⟨run, readSequence letters⟩)

def combiningClasses : Chart Nat :=
  .ofSpans ((words combiningClassText).map fun word =>
    let (run, digits) := readEntry word
    ⟨run, decimalNumber digits⟩)

def combiningClass (n : Nat) : Nat :=
  match combiningClasses.find? n with
  | some span => span.value
  | none => 0

/-- A Hangul syllable is its leading consonant, its vowel and, if there is one, its final. -/
def hangulJamo (n : Nat) : List Nat :=
  let s := n - 0xAC00
  let lead := 0x1100 + s / 588
  let vowel := 0x1161 + s % 588 / 28
  if s % 28 = 0 then [lead, vowel] else [lead, vowel, 0x11A7 + s % 28]

def isHangulSyllable (n : Nat) : Bool := 0xAC00 ≤ n && n ≤ 0xD7A3

def decompose (n : Nat) : List Nat :=
  if isHangulSyllable n then hangulJamo n
  else match decompositions.find? n with
    | none => [n]
    | some span =>
      match span.value with
      | [] => [n]
      | letter :: marks => (letter + (n - span.first)) :: marks

/-- Adds a mark to a text that is held back to front. -/
def placeMark (mark cls : Nat) : List Nat → List Nat
  | [] => [mark]
  | n :: before =>
    if cls < combiningClass n then n :: placeMark mark cls before else mark :: n :: before

def placeCodePoint (before : List Nat) (n : Nat) : List Nat :=
  let cls := combiningClass n
  if cls = 0 then n :: before else placeMark n cls before

def canonicalOrder (ns : List Nat) : List Nat :=
  (ns.foldl placeCodePoint []).reverse

def canonical (ns : List Nat) : List Nat :=
  canonicalOrder (ns.flatMap decompose)

end ListenQuery.Unicode

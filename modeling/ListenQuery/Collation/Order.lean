import ListenQuery.Collation.Element

/-!
# The order of texts

A text in canonical form is read from the left. A contraction takes the longest run of characters
that is one, and then marks further on that no mark of the same class keeps apart from it. A vowel
sign that is written before its consonant sorts after it.

Two texts compare by all their primary weights, then by their secondary weights and last by their
tertiary weights. Weights of zero do not count, so that ignored characters never decide.
-/

namespace ListenQuery.Collation

open Unicode

/-- The vowel signs written before their consonants, each with its consonants. -/
def reorderedVowels : List (List Run × List Run) :=
  [([⟨0xE40, 0xE44⟩], [⟨0xE01, 0xE2E⟩]),
    ([⟨0xEC0, 0xEC4⟩],
      [⟨0xE81, 0xE82⟩, ⟨0xE84, 0xE84⟩, ⟨0xE86, 0xE8A⟩, ⟨0xE8C, 0xEA3⟩, ⟨0xEA5, 0xEA5⟩,
        ⟨0xEA7, 0xEAE⟩, ⟨0xEDC, 0xEDF⟩]),
    ([⟨0x19B5, 0x19B7⟩, ⟨0x19BA, 0x19BA⟩], [⟨0x1980, 0x19AB⟩]),
    ([⟨0xAAB5, 0xAAB6⟩, ⟨0xAAB9, 0xAAB9⟩, ⟨0xAABB, 0xAABC⟩], [⟨0xAA80, 0xAAAF⟩])]

def isReordered (vowel consonant : Nat) : Bool :=
  reorderedVowels.any fun (vowels, consonants) =>
    vowels.any (·.contains vowel) && consonants.any (·.contains consonant)

def sequences : List (List Nat × List Element) :=
  contractionLetters.map (fun (letter, n) => (letter, [.letter n])) ++
    ((words variantText).filter isSequence).map fun word =>
      (readSequence (word.takeWhile (· ≠ '=')),
        (readReadings ((word.dropWhile (· ≠ '=')).drop 1)).map (Reading.element 0))

def startsSequence (n : Nat) : Bool := sequences.any (·.1.head? == some n)

def longer (a b : List Nat) : List Nat := if a.length < b.length then b else a

def longestSequence (n : Nat) (rest : List Nat) : List Nat :=
  (sequences.filter (fun s => s.1.isPrefixOf (n :: rest))).foldl (fun best s => longer best s.1) [n]

/-- Adds to a contraction the marks further on that are not blocked. A mark is blocked by a mark
of its own class among those passed over; `blocked` is the class of the last one of them. -/
def extendSequence (found : List Nat) (blocked : Nat) (passed : List Nat) :
    List Nat → List Nat × List Nat
  | [] => (found, passed.reverse)
  | n :: rest =>
    let cls := combiningClass n
    if cls = 0 then (found, passed.reverse ++ n :: rest)
    else if blocked < cls && (sequences.lookup (found ++ [n])).isSome then
      extendSequence (found ++ [n]) blocked passed rest
    else extendSequence found cls (n :: passed) rest

/-- The elements of the first character, or of the contraction it begins, and what is left. -/
def nextElements (n : Nat) (rest : List Nat) : List Element × List Nat :=
  match rest with
  | consonant :: after =>
    if isReordered n consonant then (elementsOf consonant ++ elementsOf n, after)
    else contraction
  | [] => contraction
where
  contraction : List Element × List Nat :=
    if startsSequence n then
      let front := longestSequence n rest
      let (found, left) := extendSequence front 0 [] ((n :: rest).drop front.length)
      ((sequences.lookup found).getD (elementsOf n), left)
    else (elementsOf n, rest)

def elementsWithin : Nat → List Nat → List Element
  | 0, _ => []
  | _, [] => []
  | steps + 1, n :: rest =>
    let (found, left) := nextElements n rest
    found ++ elementsWithin steps left

def elements (text : String) : List Element :=
  let ns := canonical (text.toList.map Char.toNat)
  elementsWithin ns.length ns

structure SortKey where
  primaries : List Nat
  secondaries : List Nat
  tertiaries : List Nat
  deriving Repr, DecidableEq

def SortKey.ofElements (es : List Element) : SortKey :=
  ⟨(es.map (·.primary)).filter (· ≠ 0), (es.map (·.secondary)).filter (· ≠ 0),
    (es.map (·.tertiary)).filter (· ≠ 0)⟩

def sortKey (text : String) : SortKey := .ofElements (elements text)

def SortKey.compare (a b : SortKey) : Ordering :=
  (Ord.compare a.primaries b.primaries).then
    ((Ord.compare a.secondaries b.secondaries).then (Ord.compare a.tertiaries b.tertiaries))

def collate (a b : String) : Ordering := (sortKey a).compare (sortKey b)

end ListenQuery.Collation

import ListenQuery.Number.Literal
import ListenQuery.Pattern.Basic
import ListenQuery.Text.Alphanumeric
import ListenQuery.Text.Blank
import ListenQuery.Unicode.Chart

/-!
# Reading patterns

A pattern is read from the left. Every reader gives what it has read and the rest of the text, or
nothing where the text is not the beginning of a pattern. The text of a pattern has no closing
brace, because one would end the field that the pattern belongs to; so an opening brace that is
not a character of a set never has a counterpart, and there are no counted repetitions. With the
flag for free spacing, blanks and comments between the parts do not count.
-/

namespace ListenQuery

open Number Text

namespace Pattern

/-- What follows blanks and comments, the latter going from `#` to the end of the line. -/
def skipBlanks : Bool → List Char → List Char
  | _, [] => []
  | true, c :: rest => skipBlanks (c ≠ '\n') rest
  | false, c :: rest =>
    if isBlank c then skipBlanks false rest
    else if c = '#' then skipBlanks true rest
    else c :: rest

def skip (free : Bool) (cs : List Char) : List Char := if free then skipBlanks false cs else cs

/-- The character that follows blanks and one sign of a comment. -/
def peek (free : Bool) (cs : List Char) : Option Char :=
  if free then
    match trimStart cs with
    | '#' :: rest => (trimStart rest).head?
    | rest => rest.head?
  else cs.head?

/-! ## Escapes -/

def readHex (free : Bool) : Nat → Nat → List Char → Option (Nat × List Char)
  | 0, n, cs => some (n, skip free cs)
  | digits + 1, n, cs =>
    match skip free cs with
    | [] => none
    | c :: rest => do
      let digit ← radixDigit 16 c
      readHex free digits (16 * n + digit) rest

/-- A character that is given by its number. -/
def readNumbered (free : Bool) (digits : Nat) (isByte : Bool) (cs : List Char) :
    Option (Pattern × List Char) := do
  let (n, rest) ← readHex free digits 0 cs
  if n.isValidChar then some (symbol ⟨Char.ofNat n, isByte⟩, rest) else none

/-- Characters that stand for themselves after a backslash. -/
def isEscapable (c : Char) : Bool :=
  c.toNat < 128 && ! c.isAlphanum && c ≠ '<' && c ≠ '>'

/-- The control character that a letter stands for after a backslash. -/
def controlOf? : Char → Option Char
  | 'a' => some '\x07'
  | 'f' => some '\x0c'
  | 't' => some '\t'
  | 'n' => some '\n'
  | 'r' => some '\r'
  | 'v' => some '\x0b'
  | _ => none

def readEscape (free : Bool) : List Char → Option (Pattern × List Char)
  | [] => none
  | 'x' :: rest => readNumbered free 2 true rest
  | 'u' :: rest => readNumbered free 4 false rest
  | 'U' :: rest => readNumbered free 8 false rest
  | c :: rest =>
    if ['d', 's', 'w'].contains c then some (shorthand false, rest)
    else if ['D', 'S', 'W'].contains c then some (shorthand true, rest)
    else if ['A', 'z'].contains c then some (anchor, rest)
    else if ['b', 'B', '<', '>'].contains c then some (wordBoundary, rest)
    else if isEscapable c then some (symbol ⟨c, false⟩, rest)
    else (controlOf? c).map fun control => (symbol ⟨control, false⟩, rest)

/-! ## Sets of characters -/

def setNames : List (List Char) :=
  ["alnum", "alpha", "ascii", "blank", "cntrl", "digit", "graph", "lower", "print", "punct",
    "space", "upper", "word", "xdigit"].map String.toList

/-- A named set after its opening bracket, such as `:alpha:]`. -/
def readNamed : List Char → Option (CharSet × List Char)
  | ':' :: cs =>
    let (negated, cs) := match cs with
      | '^' :: rest => (true, rest)
      | _ => (false, cs)
    match cs.dropWhile (· ≠ ':') with
    | ':' :: ']' :: rest =>
      if setNames.contains (cs.takeWhile (· ≠ ':')) then some (.named negated, rest) else none
    | _ => none
  | _ => none

def readMember (free : Bool) : List Char → Option (Pattern × List Char)
  | [] => none
  | '\\' :: rest => readEscape free rest
  | c :: rest => some (symbol ⟨c, false⟩, rest)

def readRange (free : Bool) (cs : List Char) : Option (CharSet × List Char) := do
  let (first, rest) ← readMember free cs
  match skip free rest with
  | '-' :: after =>
    let next := peek free after
    if next = some ']' || next = some '-' then
      (first.asCharSet?).map fun set => (set, '-' :: after)
    else
      let (last, rest) ← readMember free (skip free after)
      let first ← first.asSymbol?
      let last ← last.asSymbol?
      if first.char ≤ last.char then some (.range first last, rest) else none
  | rest => (first.asCharSet?).map fun set => (set, rest)

/-- What has been read of a set in brackets: the sets before the last operator, and those after it
in reverse order. While it is opening, hyphens and a closing bracket are members. -/
structure Bracket where
  negated : Bool
  left : Option CharSet
  members : List CharSet
  isOpening : Bool

namespace Bracket

/-- A set in brackets, after its opening one. -/
def start (free : Bool) (cs : List Char) : Bracket × List Char :=
  match skip free cs with
  | '^' :: rest => (⟨true, none, [], true⟩, rest)
  | rest => (⟨false, none, [], true⟩, rest)

def add (set : CharSet) (b : Bracket) : Bracket :=
  { b with members := set :: b.members, isOpening := false }

def addOpening (c : Char) (b : Bracket) : Bracket :=
  { b with members := .symbol ⟨c, false⟩ :: b.members, isOpening := c = '-' }

def contents (b : Bracket) : CharSet :=
  match b.left with
  | none => .ofReversed b.members
  | some left => .operation left (.ofReversed b.members)

def operate (b : Bracket) : Bracket := ⟨b.negated, some b.contents, [], false⟩

def close (b : Bracket) : CharSet := .bracketed b.negated b.contents

end Bracket

/-- Reads a set up to its closing bracket, in at most `steps` steps. -/
def readBracket (free : Bool) : Nat → Bracket → List Char → Option (CharSet × List Char)
  | 0, _, _ => none
  | steps + 1, b, cs =>
    match skip free cs with
    | [] => none
    | c :: rest =>
      if b.isOpening && (c = '-' || (c = ']' && b.members.isEmpty)) then
        readBracket free steps (b.addOpening c) rest
      else if c = ']' then some (b.close, rest)
      else if c = '[' then
        match readNamed rest with
        | some (set, rest) => readBracket free steps (b.add set) rest
        | none =>
          let (inner, rest) := Bracket.start free rest
          match readBracket free steps inner rest with
          | none => none
          | some (set, rest) => readBracket free steps (b.add set) rest
      else if ['&', '-', '~'].contains c && rest.head? = some c then
        readBracket free steps b.operate rest.tail
      else
        match readRange free (c :: rest) with
        | none => none
        | some (set, rest) => readBracket free steps (b.add set) rest

/-- A set in brackets, after its opening one. -/
def readCharSet (free : Bool) (cs : List Char) : Option (CharSet × List Char) :=
  let (b, rest) := Bracket.start free cs
  readBracket free (rest.length + 1) b rest

/-! ## Groups -/

def readFlagLetters (letters : List Char) : Option (List PatternFlag) :=
  letters.mapM PatternFlag.ofLetter?

/-- The flags of a group, those after a hyphen being turned off. None is given twice. -/
def readFlagChange (text : List Char) : Option FlagChange := do
  let change ← match Unicode.cutWhere (· = '-') text with
    | [on] => (readFlagLetters on).map fun on => ⟨on, []⟩
    | [on, off] =>
      if off.isEmpty then none
      else (readFlagLetters on).bind fun on => (readFlagLetters off).map fun off => ⟨on, off⟩
    | _ => none
  if (change.on ++ change.off).Nodup then some change else none

def isGroupName : List Char → Bool
  | [] => false
  | first :: rest =>
    (first = '_' || isAlphabetic first) &&
      rest.all fun c => ['_', '.', '[', ']'].contains c || isAlphanumeric c

inductive Opening
  | flags (change : FlagChange)
  | group (change : FlagChange)
  | namedGroup (name : List Char)

def readGroupName (cs : List Char) : Option (Opening × List Char) :=
  let name := cs.takeWhile (· ≠ '>')
  match cs.dropWhile (· ≠ '>') with
  | '>' :: rest => if isGroupName name then some (.namedGroup name, rest) else none
  | _ => none

def readOpening (free : Bool) (cs : List Char) : Option (Opening × List Char) :=
  match skip free cs with
  | '?' :: 'P' :: '<' :: rest => readGroupName rest
  | '?' :: '<' :: rest => readGroupName rest
  | '?' :: rest =>
    let text := rest.takeWhile fun c => c ≠ ':' && c ≠ ')'
    match rest.dropWhile fun c => c ≠ ':' && c ≠ ')' with
    | ')' :: after =>
      if text.isEmpty then none
      else (readFlagChange text).map fun change => (.flags change, after)
    | ':' :: after => (readFlagChange text).map fun change => (.group change, after)
    | _ => none
  | rest => some (.group .none, rest)

/-! ## Patterns -/

/-- What has been read of a group: whether spacing is free, the branches before the last one and
the parts of the last one, both in reverse order, and all names of groups so far. -/
structure Progress where
  free : Bool
  branches : List Pattern
  parts : List Pattern
  names : List (List Char)

namespace Progress

def start (free : Bool) (names : List (List Char)) : Progress := ⟨free, [], [], names⟩

def add (p : Pattern) (read : Progress) : Progress := { read with parts := p :: read.parts }

def branch (read : Progress) : Progress :=
  { read with branches := ofReversed read.parts :: read.branches, parts := [] }

def repeatLast? (read : Progress) : Option Progress :=
  match read.parts with
  | [] => none
  | p :: parts =>
    if p.isRepeatable then some { read with parts := .repetition p :: parts } else none

def change (c : FlagChange) (read : Progress) : Progress :=
  { read with free := c.apply .freeSpacing read.free, parts := .flags c :: read.parts }

def close (read : Progress) : Pattern := ofBranches read.branches (ofReversed read.parts)

end Progress

def readSimple (free : Bool) : List Char → Option (Pattern × List Char)
  | [] => none
  | '\\' :: rest => readEscape free rest
  | '[' :: rest => (readCharSet free rest).map fun (set, rest) => (charSet set, rest)
  | '.' :: rest => some (dot, rest)
  | '^' :: rest => some (anchor, rest)
  | '$' :: rest => some (anchor, rest)
  | '{' :: _ => none
  | c :: rest => some (symbol ⟨c, false⟩, rest)

/-- The names of groups with that of a group that begins, unless it is there already. -/
def Opening.names? (names : List (List Char)) : Opening → Option (List (List Char))
  | namedGroup name => if names.contains name then none else some (name :: names)
  | _ => some names

def Opening.change : Opening → FlagChange
  | flags c => c
  | group c => c
  | namedGroup _ => .none

def isRepetition (c : Char) : Bool := c = '?' || c = '*' || c = '+'

/-- Reads up to the parenthesis that closes a group, or to the end, in at most `steps` steps. -/
def readParts : Nat → Progress → List Char → Option (Progress × List Char)
  | 0, _, _ => none
  | steps + 1, read, cs =>
    match skip read.free cs with
    | [] => some (read, [])
    | ')' :: rest => some (read, ')' :: rest)
    | '|' :: rest => readParts steps read.branch rest
    | '(' :: rest =>
      match readOpening read.free rest with
      | none => none
      | some (.flags c, rest) => readParts steps (read.change c) rest
      | some (opening, rest) =>
        match opening.names? read.names with
        | none => none
        | some names =>
          let inner := Progress.start (opening.change.apply .freeSpacing read.free) names
          match readParts steps inner rest with
          | some (body, ')' :: rest) =>
            let read := { read with names := body.names }
            readParts steps (read.add (.group opening.change body.close)) rest
          | _ => none
    | c :: rest =>
      if isRepetition c then
        match read.repeatLast? with
        | none => none
        | some read =>
          readParts steps read (match rest with
            | '?' :: after => after
            | _ => rest)
      else
        match readSimple read.free (c :: rest) with
        | none => none
        | some (p, rest) => readParts steps (read.add p) rest

def read (cs : List Char) : Option Pattern :=
  match readParts (cs.length + 1) (.start false []) cs with
  | some (read, []) => some read.close
  | _ => none

end Pattern

end ListenQuery

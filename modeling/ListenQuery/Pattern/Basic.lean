/-!
# Patterns

A pattern says what the value of a field looks like: characters one after another, sets of
characters, repetitions, groups and alternatives. This module holds the form of patterns and how
deep their parts are nested.
-/

namespace ListenQuery

/-- How a part of a pattern is to be read, given by a letter. -/
inductive PatternFlag
  | ignoreCase
  | multiLine
  | dotMatchesLineEnd
  | swapGreed
  | unicode
  | carriageReturn
  | freeSpacing
  deriving DecidableEq, Repr

def PatternFlag.ofLetter? : Char → Option PatternFlag
  | 'i' => some .ignoreCase
  | 'm' => some .multiLine
  | 's' => some .dotMatchesLineEnd
  | 'U' => some .swapGreed
  | 'u' => some .unicode
  | 'R' => some .carriageReturn
  | 'x' => some .freeSpacing
  | _ => none

structure FlagChange where
  on : List PatternFlag
  off : List PatternFlag
  deriving DecidableEq, Repr

namespace FlagChange

def none : FlagChange := ⟨[], []⟩

/-- Whether a flag is on after a change, `before` telling whether it was. -/
def apply (change : FlagChange) (flag : PatternFlag) (before : Bool) : Bool :=
  change.on.contains flag || (before && ! change.off.contains flag)

end FlagChange

/-- A character of a pattern. One that is given by two hexadecimal digits may stand for a byte. -/
structure Symbol where
  char : Char
  isByte : Bool
  deriving DecidableEq, Repr

/-- A set of characters. A named set is one such as `[:alpha:]`, and a shorthand one such as
`\d`. -/
inductive CharSet
  | empty
  | symbol (s : Symbol)
  | range (first last : Symbol)
  | named (negated : Bool)
  | shorthand (negated : Bool)
  | union (sets : List CharSet)
  | bracketed (negated : Bool) (set : CharSet)
  | operation (left right : CharSet)

inductive Pattern
  | empty
  | flags (change : FlagChange)
  | symbol (s : Symbol)
  | dot
  | anchor
  | wordBoundary
  | shorthand (negated : Bool)
  | charSet (set : CharSet)
  | repetition (body : Pattern)
  | group (change : FlagChange) (body : Pattern)
  | alternatives (branches : List Pattern)
  | sequence (parts : List Pattern)

mutual

def CharSet.depth : CharSet → Nat
  | .union sets => CharSet.greatestDepth sets + 1
  | .bracketed _ set => set.depth + 1
  | .operation left right => max left.depth right.depth + 1
  | _ => 0

def CharSet.greatestDepth : List CharSet → Nat
  | [] => 0
  | set :: rest => max set.depth (CharSet.greatestDepth rest)

end

mutual

def Pattern.depth : Pattern → Nat
  | .charSet set => set.depth
  | .repetition body => body.depth + 1
  | .group _ body => body.depth + 1
  | .alternatives branches => Pattern.greatestDepth branches + 1
  | .sequence parts => Pattern.greatestDepth parts + 1
  | _ => 0

def Pattern.greatestDepth : List Pattern → Nat
  | [] => 0
  | p :: rest => max p.depth (Pattern.greatestDepth rest)

end

namespace CharSet

/-- The set of all characters of some sets, given in reverse order. -/
def ofReversed : List CharSet → CharSet
  | [] => empty
  | [set] => set
  | sets => union sets.reverse

end CharSet

namespace Pattern

/-- Parts one after another, given in reverse order. -/
def ofReversed : List Pattern → Pattern
  | [] => empty
  | [p] => p
  | parts => sequence parts.reverse

/-- The branches before the last one, given in reverse order, and the last one. -/
def ofBranches (branches : List Pattern) (last : Pattern) : Pattern :=
  if branches.isEmpty then last else alternatives (branches.reverse ++ [last])

def isRepeatable : Pattern → Bool
  | empty => false
  | flags _ => false
  | _ => true

/-- A part of a pattern as a member of a set, if it can be one. -/
def asCharSet? : Pattern → Option CharSet
  | symbol s => some (.symbol s)
  | shorthand negated => some (.shorthand negated)
  | _ => none

def asSymbol? : Pattern → Option Symbol
  | symbol s => some s
  | _ => none

end Pattern

end ListenQuery

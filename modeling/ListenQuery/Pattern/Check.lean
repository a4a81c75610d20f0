import ListenQuery.Pattern.Reader

/-!
# Checking patterns

A pattern is accepted when it can be read, is not nested too deeply, and says under its flags what
can be told of a character from the pattern alone: with the Unicode flag there are no shorthands
and no ignoring of case, and without it no part may match a single byte above the ASCII range.
Word boundaries in the sense of Unicode are a fault of their own, met only in a pattern that has
no other.
-/

namespace ListenQuery

inductive PatternError
  | malformed
  | unicodeWordBoundary
  deriving DecidableEq, Repr

def PatternError.message : PatternError → String
  | .malformed => "error building NFA"
  | .unicodeWordBoundary =>
    "unsupported regex feature for DFAs: cannot build DFAs for regexes with Unicode word " ++
      "boundaries; switch to ASCII word boundaries, or heuristically enable Unicode word " ++
      "boundaries or use a different regex engine"

namespace Pattern

/-- The flags on which it hangs whether a part is accepted. -/
structure Modes where
  ignoreCase : Bool
  unicode : Bool
  deriving DecidableEq, Repr

namespace Modes

def start : Modes := ⟨false, true⟩

def change (c : FlagChange) (m : Modes) : Modes :=
  ⟨c.apply .ignoreCase m.ignoreCase, c.apply .unicode m.unicode⟩

def allowsSymbol (m : Modes) (s : Symbol) : Bool :=
  if m.unicode then ! m.ignoreCase else ! s.isByte || s.char.toNat < 128

def allowsMember (m : Modes) (s : Symbol) : Bool :=
  if m.unicode then ! m.ignoreCase else s.char.toNat < 128

def allowsNamed (m : Modes) (negated : Bool) : Bool :=
  if m.unicode then ! m.ignoreCase else ! negated

def allowsShorthand (m : Modes) (negated : Bool) : Bool := ! m.unicode && ! negated

end Modes

mutual

/-- Whether a set can be told apart in the modes. -/
def allowsSet (m : Modes) : CharSet → Bool
  | .empty => true
  | .symbol s => m.allowsMember s
  | .range first last => m.allowsMember first && m.allowsMember last
  | .named negated => m.allowsNamed negated
  | .shorthand negated => m.allowsShorthand negated
  | .union sets => allowsSets m sets
  | .bracketed negated set => (m.unicode || ! negated) && allowsSet m set
  | .operation left right => allowsSet m left && allowsSet m right

def allowsSets (m : Modes) : List CharSet → Bool
  | [] => true
  | set :: rest => allowsSet m set && allowsSets m rest

end

/-- What has been found out on the way through a pattern. -/
structure Survey where
  modes : Modes
  hasUnicodeBoundary : Bool
  deriving DecidableEq, Repr

namespace Survey

def start : Survey := ⟨.start, false⟩

def change (c : FlagChange) (s : Survey) : Survey := { s with modes := s.modes.change c }

def keepIf (allowed : Bool) (s : Survey) : Option Survey := if allowed then some s else none

def meetBoundary (s : Survey) : Survey :=
  { s with hasUnicodeBoundary := s.hasUnicodeBoundary || s.modes.unicode }

end Survey

mutual

/-- Goes through a pattern from the left. Flags hold to the end of their group. -/
def survey : Pattern → Survey → Option Survey
  | .empty, s => some s
  | .flags c, s => some (s.change c)
  | .symbol x, s => s.keepIf (s.modes.allowsSymbol x)
  | .dot, s => s.keepIf s.modes.unicode
  | .anchor, s => some s
  | .wordBoundary, s => some s.meetBoundary
  | .shorthand negated, s => s.keepIf (s.modes.allowsShorthand negated)
  | .charSet set, s => s.keepIf (allowsSet s.modes set)
  | .repetition body, s => survey body s
  | .group c body, s => (survey body (s.change c)).map fun after => { after with modes := s.modes }
  | .alternatives branches, s => surveyAll branches s
  | .sequence parts, s => surveyAll parts s

def surveyAll : List Pattern → Survey → Option Survey
  | [], s => some s
  | p :: rest, s => (survey p s).bind (surveyAll rest)

end

def nestLimit : Nat := 250

def check (text : List Char) : Except PatternError Unit :=
  match read text with
  | none => .error .malformed
  | some p =>
    if nestLimit < p.depth then .error .malformed
    else match survey p .start with
      | none => .error .malformed
      | some s => if s.hasUnicodeBoundary then .error .unicodeWordBoundary else .ok ()

end Pattern

end ListenQuery

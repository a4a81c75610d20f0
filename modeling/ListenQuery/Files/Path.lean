import ListenQuery.Unicode.Chart

/-!
# Paths

A path is kept as it is written. Its steps are the names between slashes; empty ones and single
dots do not lead anywhere, but one at the end asks for a directory.
-/

namespace ListenQuery

abbrev Path := String

namespace Path

/-- The names between slashes, all of them. -/
def pieces (p : Path) : List String :=
  (Unicode.cutWhere (· = '/') p.toList).map String.ofList

def isAbsolute (p : Path) : Bool := p.toList.head? = some '/'

def steps (p : Path) : List String := p.pieces.filter fun s => s ≠ "" && s ≠ "."

/-- The names that tell two paths apart. A single dot counts at the front of a relative path. -/
def components (p : Path) : List String :=
  if p.isAbsolute then "/" :: p.steps
  else if p.pieces.head? = some "." then "." :: p.steps
  else p.steps

/-- The directory part of a path as written, if it has one. A path without a slash is in the empty
path, which stands for the working directory. -/
def parent? (p : Path) : Option Path :=
  match p.components.reverse with
  | [] => none
  | ["/"] => none
  | _ :: above =>
    match above.reverse with
    | "/" :: rest => some ("/" ++ "/".intercalate rest)
    | names => some ("/".intercalate names)

def asksForDirectory (p : Path) : Bool :=
  match p.pieces.getLast? with
  | some last => last = "" || last = "."
  | none => false

/-- Whether the last name of a path is a dot, so that what stands before it must exist. -/
def endsInDot (p : Path) : Bool := (p.pieces.filter (· ≠ "")).getLast? = some "."

def join (p : Path) (name : String) : Path :=
  if p.toList.getLast? = some '/' then p ++ name else p ++ "/" ++ name

def hasNul (p : Path) : Bool := p.toList.any (·.toNat = 0)

end Path

end ListenQuery

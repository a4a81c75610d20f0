import ListenQuery.Expression.Error
import ListenQuery.Json.Reader
import ListenQuery.Json.Writer

/-!
# List sources

A list source is a JSON object that maps keys to arrays of literals. Nested arrays are flattened,
numbers keep the text that JSON gives them, and null or an object makes the entry of its key
invalid. The entries come in the order of their keys, and so does the first invalid one.
-/

namespace ListenQuery

open Number

structure ListSource where
  name : String
  content : String
  deriving DecidableEq, Repr

namespace ListSource

def boolText (b : Bool) : String := if b then "true" else "false"

/-- The literals of an array from left to right, if all its leaves are literals. -/
def literals : List Json → Option (List String)
  | [] => some []
  | .string s :: rest => (literals rest).map (s :: ·)
  | .number n :: rest => (literals rest).map (String.ofList n.text :: ·)
  | .bool b :: rest => (literals rest).map (boolText b :: ·)
  | .array inner :: rest =>
    match literals inner, literals rest with
    | some xs, some ys => some (xs ++ ys)
    | _, _ => none
  | .null :: _ => none
  | .object _ :: _ => none

def entry (source key : String) (value : Json) : Except ExpressionError (List String) :=
  match value with
  | .array items =>
    match literals items with
    | some ls => .ok ls
    | none => .error (.invalidListEntry source key)
  | _ => .error (.invalidListEntry source key)

def entries [RealReading] (s : ListSource) : Except ExpressionError (Fields (List String)) :=
  match Json.read s.content with
  | .error fault => .error (.malformedList s.name fault.message)
  | .ok (.object members) => members.mapM fun (key, value) => (entry s.name key value).map (key, ·)
  | .ok _ => .error (.malformedList s.name "expected an object at the top level")

end ListSource

end ListenQuery

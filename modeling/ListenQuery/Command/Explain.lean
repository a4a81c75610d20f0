import ListenQuery.Filter.Build
import ListenQuery.Json.Writer
import ListenQuery.Modifier

/-!
# Explanations

How a filter and its edits are understood, as lines of text or as JSON. A bound that is the
default one is not shown.
-/

namespace ListenQuery

structure Explanation where
  after : Option String
  before : Option String
  conditions : List Condition
  edits : List Edit
  deriving DecidableEq, Repr

def boundText (default t : Timestamp) : Option String :=
  if t = default then none else some t.text

def Explanation.of (f : Filter) (m : Modifier) : Explanation :=
  ⟨boundText TimeRange.default.min f.range.min, boundText TimeRange.default.max f.range.max,
    f.conditions, m.edits⟩

def Operand.toJson : Operand → Json
  | .literal text => .string text
  | .set literals => .array (literals.map .string)

def Condition.toJson (c : Condition) : Json :=
  .object
    [("key", .string c.key), ("operand", c.operand.toJson),
      ("operator", .string c.operator.name)]

def Edit.toJson (e : Edit) : Json :=
  .object [("key", .string e.key), ("value", .string e.value)]

namespace Explanation

def boundJson (bound : Option String) : Json :=
  match bound with
  | some text => .string text
  | none => .null

def toJson (e : Explanation) : Json :=
  .object
    [("after", boundJson e.after), ("before", boundJson e.before),
      ("conditions", .array (e.conditions.map Condition.toJson)),
      ("edits", .array (e.edits.map Edit.toJson))]

def boundLine (label : String) (bound : Option String) : List String :=
  match bound with
  | some text => [label ++ text ++ " (exclusive)"]
  | none => []

def lines (e : Explanation) : List String :=
  let shown :=
    boundLine "after   " e.after ++ boundLine "before  " e.before ++
      e.conditions.map (fun c => "where   " ++ c.display) ++
      e.edits.map (fun edit => "set     " ++ edit.display)
  if shown.isEmpty then ["(keeps every listen unchanged)"] else shown

/-- The texts that are printed, one after another. -/
def texts (json : Bool) (e : Explanation) : List String :=
  if json then [String.ofList (e.toJson.indented 0) ++ "\n"] else e.lines.map (· ++ "\n")

def text (json : Bool) (e : Explanation) : String := String.join (e.texts json)

end Explanation

end ListenQuery

import ListenQuery.Expression.Clause
import ListenQuery.Filter.ListSource
import ListenQuery.Log

/-!
# Building filters

A filter is built from its text, its two bounds and its two list sources, in this order, and the
first of them that cannot be read is the error. The conditions of the text come first, then those
of the excluded and of the included values.
-/

namespace ListenQuery

open Number

structure FilterOptions where
  filter : Option String
  after : Option String
  before : Option String
  excluded : Option ListSource
  included : Option ListSource
  deriving DecidableEq, Repr

def FilterOptions.none : FilterOptions := ⟨.none, .none, .none, .none, .none⟩

def ListRole.condition : ListRole → String × List String → Condition
  | .excluded, (key, literals) => .noneOf key literals
  | .included, (key, literals) => .oneOf key literals

def readBound (bound : Bound) (input : Option String) :
    Except ExpressionError (Option Timestamp) :=
  match input with
  | none => .ok none
  | some text =>
    match Timestamp.read text with
    | some t => .ok (some t)
    | none => .error (.invalidTime bound text)

def readFilterOption (text : Option String) : Except ExpressionError (List Condition) :=
  match text with
  | none => .ok []
  | some text => readFilter text

def loadList [RealReading] (role : ListRole) (source : Option ListSource) :
    Logged ExpressionError (List Condition) := do
  match source with
  | none => pure []
  | some source =>
    let entries ← .ofExcept source.entries
    .log (.loadedList role source.name entries.length) (entries.map role.condition)

namespace Filter

def build [RealReading] (options : FilterOptions) : Logged ExpressionError Filter := do
  let clauses ← .ofExcept (readFilterOption options.filter)
  let after ← .ofExcept (readBound .after options.after)
  let before ← .ofExcept (readBound .before options.before)
  let excluded ← loadList .excluded options.excluded
  let included ← loadList .included options.included
  let filter : Filter := ⟨.ofBounds after before, clauses ++ excluded ++ included⟩
  .log (.builtFilter filter.range filter.conditions.length) filter

def accepts (f : Filter) (l : Listen) : Logged ExpressionError Bool :=
  match f.check l with
  | .error e => ⟨[], .error e⟩
  | .ok verdict =>
    ⟨verdict.warnings.map (.skippedCondition · l.listenedAt), .ok verdict.accepted⟩

end Filter

end ListenQuery

import ListenQuery.Filter.Basic
import ListenQuery.Text.Blank
import ListenQuery.Text.Terminal

/-!
# The log

What a computation notes on its way, in order, whether it succeeds or not. An event is written as
its severity, what happened, and the values by name. What happened is made harmless for a terminal;
the values are written as they are, so that the text of an event may have several lines.
-/

namespace ListenQuery

inductive ListRole
  | excluded
  | included
  deriving DecidableEq, Repr

def ListRole.name : ListRole → String
  | .excluded => "exclude"
  | .included => "include"

inductive Event
  | loadedList (role : ListRole) (source : String) (keys : Nat)
  | builtFilter (range : TimeRange) (conditions : Nat)
  | builtModifier (edits : Nat)
  | skippedCondition (warning : Warning) (timestamp : Timestamp)
  | filteredListens (kept total : Nat)
  deriving DecidableEq, Repr

def natString (n : Nat) : String := String.ofList (Number.natText n)

def timestampString (t : Timestamp) : String := String.ofList (Number.intText t.toInt)

inductive Severity
  | warning
  | info
  | debug
  deriving DecidableEq, Repr

def Severity.name : Severity → String
  | .warning => "WARN"
  | .info => "INFO"
  | .debug => "DEBUG"

def Event.severity : Event → Severity
  | .skippedCondition _ _ => .warning
  | .filteredListens _ _ => .info
  | _ => .debug

def Event.message : Event → String
  | .loadedList role _ _ => "loaded " ++ role.name ++ " list"
  | .builtFilter _ _ => "built filter"
  | .builtModifier _ => "built modifier"
  | .skippedCondition warning _ => warning.message
  | .filteredListens _ _ => "filtered listens"

def Event.values : Event → List (String × String)
  | .loadedList _ source keys => [("source", Text.inspected source), ("keys", natString keys)]
  | .builtFilter range conditions =>
    [("min", timestampString range.min), ("max", timestampString range.max),
      ("conditions", natString conditions)]
  | .builtModifier edits => [("edits", natString edits)]
  | .skippedCondition warning timestamp =>
    [("key", warning.key), ("timestamp", timestampString timestamp)]
  | .filteredListens kept total => [("kept", natString kept), ("total", natString total)]

def Event.text (e : Event) : String :=
  e.severity.name ++ " " ++ Text.harmless e.message ++
    String.join (e.values.map fun (name, value) => " " ++ name ++ "=" ++ value)

/-- The lines of an event, without the blanks around them. -/
def Event.lines (e : Event) : List String :=
  (Unicode.cutWhere (· = '\n') e.text.toList).map (String.ofList ∘ Text.trim)

structure Logged (ε α : Type) where
  events : List Event
  result : Except ε α

namespace Logged

variable {ε ε' α β : Type}

def ofExcept (result : Except ε α) : Logged ε α := ⟨[], result⟩

def log (event : Event) (value : α) : Logged ε α := ⟨[event], .ok value⟩

def bind (x : Logged ε α) (f : α → Logged ε β) : Logged ε β :=
  match x.result with
  | .error e => ⟨x.events, .error e⟩
  | .ok a =>
    let y := f a
    ⟨x.events ++ y.events, y.result⟩

def mapError (f : ε → ε') (x : Logged ε α) : Logged ε' α := ⟨x.events, x.result.mapError f⟩

instance : Monad (Logged ε) where
  pure value := ⟨[], .ok value⟩
  bind := bind

end Logged

end ListenQuery

import ListenQuery.Expression.Clause
import ListenQuery.Log

/-!
# Modifiers

A modifier is a list of edits that are made in order, so that a later edit of a key takes the
place of an earlier one.
-/

namespace ListenQuery

structure Modifier where
  edits : List Edit
  deriving DecidableEq, Repr

namespace Modifier

def build (expressions : List String) : Logged ExpressionError Modifier := do
  let edits ← .ofExcept (expressions.mapM Edit.read)
  .log (.builtModifier edits.length) ⟨edits⟩

def isEmpty (m : Modifier) : Bool := m.edits.isEmpty

def apply (m : Modifier) (l : Listen) : Listen :=
  m.edits.foldl (fun l e => l.set e.key e.value) l

end Modifier

end ListenQuery

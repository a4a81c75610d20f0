import ListenQuery.Attribute.Value
import ListenQuery.Files.Error

/-!
# Errors of expressions

Why a filter or an edit cannot be built, and the one reason why a record cannot be checked.
-/

namespace ListenQuery

inductive Bound
  | after
  | before
  deriving DecidableEq, Repr

def Bound.name : Bound → String
  | .after => "after"
  | .before => "before"

inductive ExpressionError
  | invalidClause (clause : String)
  | invalidEdit (expression : String)
  | invalidTime (bound : Bound) (input : String)
  | malformedList (source : String) (reason : String)
  | invalidListEntry (source : String) (key : String)
  | unreadableList (source : String) (cause : FileError)
  | unsupportedValue (key : String) (kind : Kind)
  deriving DecidableEq, Repr

namespace ExpressionError

def message : ExpressionError → String
  | invalidClause clause =>
    "invalid filter clause '" ++ clause ++
      "': expected <key><operator><value> with one of == != <= < >= > ^"
  | invalidEdit expression => "invalid edit '" ++ expression ++ "': expected <key>=<value>"
  | invalidTime bound input => "invalid " ++ bound.name ++ " time '" ++ input ++ "'"
  | malformedList source reason =>
    "list source '" ++ source ++ "' must map attribute keys to lists of values: " ++ reason
  | invalidListEntry source key =>
    "list source '" ++ source ++ "': value of '" ++ key ++
      "' must be a list of strings, numbers or booleans"
  | unreadableList source _ => "failed to read list source '" ++ source ++ "'"
  | unsupportedValue key kind =>
    "cannot compare attribute '" ++ key ++ "' of kind " ++ kind.name

def fullMessage (e : ExpressionError) : String :=
  match e with
  | unreadableList _ cause => e.message ++ ": " ++ cause.message
  | _ => e.message

end ExpressionError

end ListenQuery

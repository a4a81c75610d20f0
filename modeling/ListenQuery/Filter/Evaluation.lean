import ListenQuery.Attribute.Comparison
import ListenQuery.Expression.Condition
import ListenQuery.Expression.Error

/-!
# Evaluating a condition

A condition passes or fails, or it is skipped because it does not apply: to an attribute with
several values, or because its operator does not take a set. `==` with a set asks for any of the
literals and `!=` for none. An object cannot be compared, which is an error.
-/

namespace ListenQuery

open Number

inductive SkipReason
  | multiValued
  | setOperand (operator : Operator)
  deriving DecidableEq, Repr

def SkipReason.message : SkipReason → String
  | .multiValued => "attribute has multiple values"
  | .setOperand operator =>
    "operator '" ++ operator.token ++ "' cannot be used with a list of values"

inductive Evaluation
  | pass
  | fail
  | skipped (reason : SkipReason)
  deriving DecidableEq, Repr

def Evaluation.isSatisfied (e : Evaluation) : Bool := e ≠ .fail

def Evaluation.ofBool (b : Bool) : Evaluation := if b then .pass else .fail

/-- Whether an operator other than `^` accepts the order of the attribute and the literal. -/
def Operator.accepts (operator : Operator) (order : Option Ordering) : Bool :=
  match operator with
  | .eq => order = some .eq
  | .ne => order ≠ some .eq
  | .lt => order = some .lt
  | .le => order = some .lt || order = some .eq
  | .gt => order = some .gt
  | .ge => order = some .gt || order = some .eq
  | .xor => false

/-- Whether some literal of a set equals the attribute. The first object comparison is an error. -/
def equalsAny (actual : Value) : List String → Except Kind Bool
  | [] => .ok false
  | literal :: rest =>
    match actual.compareWith literal with
    | .error kind => .error kind
    | .ok order => if order = some .eq then .ok true else equalsAny actual rest

def evaluateScalar (operator : Operator) (operand : Operand) (actual : Value) :
    Except Kind Evaluation :=
  match operand, operator with
  | .set literals, .eq => (equalsAny actual literals).map .ofBool
  | .set literals, .ne => (equalsAny actual literals).map fun any => .ofBool (! any)
  | .set _, operator => .ok (.skipped (.setOperand operator))
  | .literal literal, .xor => .ok (.ofBool (actual.isTruthy != literalIsTruthy literal))
  | .literal literal, operator =>
    (actual.compareWith literal).map fun order => .ofBool (operator.accepts order)

def evaluate (c : Condition) (actual : Value) : Except ExpressionError Evaluation :=
  if actual.isList then .ok (.skipped .multiValued)
  else (evaluateScalar c.operator c.operand actual).mapError (.unsupportedValue c.key)

end ListenQuery

import ListenQuery.Expression.Operator

/-!
# Conditions and edits

A condition compares the attribute of a key with a literal or with a set of literals. An edit
gives an attribute a new text.
-/

namespace ListenQuery

inductive Operand
  | literal (text : String)
  | set (literals : List String)
  deriving DecidableEq, Repr

def Operand.display : Operand → String
  | .literal text => text
  | .set literals => "[" ++ ", ".intercalate literals ++ "]"

structure Condition where
  key : String
  operator : Operator
  operand : Operand
  deriving DecidableEq, Repr

namespace Condition

def oneOf (key : String) (literals : List String) : Condition := ⟨key, .eq, .set literals⟩

def noneOf (key : String) (literals : List String) : Condition := ⟨key, .ne, .set literals⟩

def display (c : Condition) : String :=
  c.key ++ " " ++ c.operator.token ++ " " ++ c.operand.display

end Condition

structure Edit where
  key : String
  value : String
  deriving DecidableEq, Repr

def Edit.display (e : Edit) : String := e.key ++ "=" ++ e.value

end ListenQuery

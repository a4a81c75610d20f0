/-!
# Operators

The seven comparison operators and their tokens. Where two tokens fit, the longer one is read.
-/

namespace ListenQuery

inductive Operator
  | eq
  | ne
  | lt
  | le
  | gt
  | ge
  | xor
  deriving DecidableEq, Repr

namespace Operator

def token : Operator → String
  | eq => "=="
  | ne => "!="
  | lt => "<"
  | le => "<="
  | gt => ">"
  | ge => ">="
  | xor => "^"

def name : Operator → String
  | eq => "eq"
  | ne => "ne"
  | lt => "lt"
  | le => "le"
  | gt => "gt"
  | ge => "ge"
  | xor => "xor"

def lex : List Char → Option (Operator × List Char)
  | '=' :: '=' :: rest => some (eq, rest)
  | '!' :: '=' :: rest => some (ne, rest)
  | '<' :: '=' :: rest => some (le, rest)
  | '<' :: rest => some (lt, rest)
  | '>' :: '=' :: rest => some (ge, rest)
  | '>' :: rest => some (gt, rest)
  | '^' :: rest => some (xor, rest)
  | _ => none

/-- A token is read back in front of anything that does not make it longer. -/
theorem lex_token (operator : Operator) (rest : List Char) (h : rest.head? ≠ some '=') :
    lex (operator.token.toList ++ rest) = some (operator, rest) := by
  cases operator <;> cases rest <;> simp_all [token, lex]

def isStart (c : Char) : Bool := c = '=' || c = '!' || c = '<' || c = '>' || c = '^'

end Operator

end ListenQuery

import ListenQuery.Expression.Condition
import ListenQuery.Expression.Error
import ListenQuery.Text.Blank

/-!
# Filter texts and edit texts

A filter is a sequence of clauses with `&&` between them, and a clause is a key, an operator and a
literal. Blanks around the three parts do not count. The key ends where the first character stands
that can begin an operator. An edit is a key and a value with the first `=` between them; its
value is taken as it stands.
-/

namespace ListenQuery

open Text

def isKey (key : List Char) : Bool := ! key.isEmpty && ! key.any isBlank

def Condition.read (clause : List Char) : Except ExpressionError Condition :=
  let cs := trim clause
  let key := trimEnd (cs.takeWhile (! Operator.isStart ·))
  match Operator.lex (cs.dropWhile (! Operator.isStart ·)) with
  | none => .error (.invalidClause (String.ofList cs))
  | some (operator, rest) =>
    if isKey key then .ok ⟨String.ofList key, operator, .literal (String.ofList (trimStart rest))⟩
    else .error (.invalidClause (String.ofList cs))

/-- The pieces of a text between the leftmost separators `&&`. -/
def clauses : List Char → List (List Char)
  | [] => [[]]
  | '&' :: '&' :: rest => [] :: clauses rest
  | c :: rest =>
    match clauses rest with
    | [] => [[c]]
    | piece :: more => (c :: piece) :: more

theorem clauses_ne_nil (cs : List Char) : clauses cs ≠ [] := by
  fun_cases clauses cs <;> simp_all

/-- Nothing but the separators lies between the pieces. -/
theorem intercalate_clauses (cs : List Char) : ['&', '&'].intercalate (clauses cs) = cs := by
  fun_induction clauses cs with
  | case1 => rfl
  | case2 rest ih =>
    have hne := clauses_ne_nil rest
    cases hp : clauses rest with
    | nil => exact absurd hp hne
    | cons piece more => simp_all [List.intercalate]
  | case3 c rest _ hnil ih => exact absurd hnil (clauses_ne_nil rest)
  | case4 c rest _ piece more hcons ih =>
    rw [hcons] at ih
    cases more <;> simp_all [List.intercalate]

def conjunction : String := "&&"

def readFilter (text : String) : Except ExpressionError (List Condition) :=
  if allBlank text.toList then .ok [] else (clauses text.toList).mapM Condition.read

def Edit.read (expression : String) : Except ExpressionError Edit :=
  let cs := expression.toList
  let key := trim (cs.takeWhile (· ≠ '='))
  match cs.dropWhile (· ≠ '=') with
  | [] => .error (.invalidEdit expression)
  | _ :: value =>
    if isKey key then .ok ⟨String.ofList key, String.ofList value⟩
    else .error (.invalidEdit expression)

end ListenQuery

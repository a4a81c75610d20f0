import ListenQuery.Filter.Evaluation
import ListenQuery.Proofs.Collation.Order
import ListenQuery.Proofs.Number.Literal
import ListenQuery.Proofs.Results

/-!
# Conditions on scalars

A scalar can be compared with every literal, so that only an attribute that is an object makes the
evaluation of a condition fail. A set condition on a scalar asks whether it equals some literal.
Texts equal themselves, numbers equal their text, and a boolean equals no text but that of a number.
-/

namespace ListenQuery

open Number Collation

namespace Value

/-- A value that can be compared: neither a list nor an object. -/
def IsScalar (v : Value) : Prop := v.isList = false ∧ v ≠ .object

def Equals (v : Value) (literal : String) : Prop := v.compareWith literal = .ok (some .eq)

instance (v : Value) (literal : String) : Decidable (v.Equals literal) :=
  inferInstanceAs (Decidable (v.compareWith literal = .ok (some .eq)))

variable {v : Value}

theorem evaluate_eq_ok_iff (h : v.isList = false) {c : Condition} {evaluation : Evaluation} :
    evaluate c v = .ok evaluation ↔ evaluateScalar c.operator c.operand v = .ok evaluation := by
  simp [evaluate, h, mapError_eq_ok_iff]

theorem exists_compareWith (h : v.IsScalar) (literal : String) :
    ∃ order, v.compareWith literal = .ok order := by
  obtain ⟨hlist, hobject⟩ := h
  cases v with
  | list items => cases hlist
  | object => exact absurd rfl hobject
  | _ => exact ⟨_, rfl⟩

theorem equalsAny_of_isScalar (h : v.IsScalar) (literals : List String) :
    equalsAny v literals = .ok (decide (∃ literal ∈ literals, v.Equals literal)) := by
  induction literals with
  | nil => rfl
  | cons literal rest ih =>
    obtain ⟨order, horder⟩ := exists_compareWith h literal
    by_cases heq : order = some .eq
    · have hequals : v.Equals literal := by rw [Equals, horder, heq]
      simp [equalsAny, horder, heq, hequals]
    · have hequals : ¬ v.Equals literal := by
        rw [Equals, horder, Except.ok.injEq]
        exact heq
      simp [equalsAny, horder, heq, hequals, ih]

theorem evaluateScalar_ne_error (h : v.IsScalar) (operator : Operator) (operand : Operand)
    (kind : Kind) : evaluateScalar operator operand v ≠ .error kind := by
  cases operand with
  | set literals => cases operator <;> simp [evaluateScalar, equalsAny_of_isScalar h]
  | literal literal =>
    obtain ⟨order, horder⟩ := exists_compareWith h literal
    cases operator <;> simp [evaluateScalar, horder]

theorem not_isScalar_of_evaluate {c : Condition} {e : ExpressionError}
    (h : evaluate c v = .error e) :
    ¬ v.IsScalar ∧ ∃ kind, e = .unsupportedValue c.key kind := by
  unfold evaluate at h
  split at h
  · cases h
  · cases heval : evaluateScalar c.operator c.operand v with
    | ok evaluation => simp [heval, Except.mapError] at h
    | error kind =>
      obtain rfl : .unsupportedValue c.key kind = e := by simpa [heval, Except.mapError] using h
      exact ⟨fun hscalar => evaluateScalar_ne_error hscalar _ _ _ heval, kind, rfl⟩

theorem evaluate_set (h : v.IsScalar) (key : String) (literals : List String) :
    evaluate (.oneOf key literals) v =
        .ok (.ofBool (decide (∃ literal ∈ literals, v.Equals literal))) ∧
      evaluate (.noneOf key literals) v =
        .ok (.ofBool (! decide (∃ literal ∈ literals, v.Equals literal))) := by
  have hany := equalsAny_of_isScalar h literals
  constructor
  · simp [evaluate_eq_ok_iff h.1, Condition.oneOf, evaluateScalar, hany]
  · simp [evaluate_eq_ok_iff h.1, Condition.noneOf, evaluateScalar, hany]

end Value

theorem Number.Double.order_self (x : Double) : x.order x = .eq := by
  simp [Double.order]

/-- A literal that spells the number of a boolean, one or zero. -/
def Number.SpellsBool (b : Bool) (literal : String) : Prop :=
  ∃ x, readNumber literal = some x ∧ (Double.ofInt (if b then 1 else 0)).order x = .eq

namespace Value

theorem equals_string (s : String) : (ofJson (.string s)).Equals s :=
  congrArg (Except.ok ∘ some) (collate_self s)

theorem equals_number (n : Numeral) : (ofJson (.number n)).Equals (String.ofList n.text) := by
  simp [Equals, ofJson, compareWith, orderNumber, readNumber_text, Double.order_self]

theorem equals_bool_iff (b : Bool) (literal : String) :
    (ofJson (.bool b)).Equals literal ↔ SpellsBool b literal := by
  simp [Equals, ofJson, compareWith, orderNumber, SpellsBool]

end Value

end ListenQuery

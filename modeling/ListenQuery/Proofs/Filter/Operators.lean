import ListenQuery.Proofs.Filter.Evaluation

/-!
# Operators on one value

The order of a scalar and a literal decides each operator that compares. So `!=` is the opposite of
`==`, `<=` and `>=` allow what `<` and `>` allow and `==` as well, and one of `<`, `==` and `>` holds
where there is an order. There is none only between a number or a boolean and a literal that spells
no number.

A set asks for any of its literals or for none of them. So it does not matter in which order they
are listed and how often. An object cannot be compared with any of them, so that only the empty set
is not in error.
-/

namespace ListenQuery

open Number

def Condition.Passes (c : Condition) (v : Value) : Prop := evaluate c v = .ok .pass

def Condition.Fails (c : Condition) (v : Value) : Prop := evaluate c v = .ok .fail

instance (c : Condition) (v : Value) : Decidable (c.Passes v) :=
  inferInstanceAs (Decidable (evaluate c v = .ok .pass))

@[simp] theorem Evaluation.ofBool_eq_pass_iff {b : Bool} : ofBool b = .pass ↔ b = true := by
  cases b <;> simp [ofBool]

@[simp] theorem Evaluation.ofBool_eq_fail_iff {b : Bool} : ofBool b = .fail ↔ b = false := by
  cases b <;> simp [ofBool]

/-! ## The orders that an operator accepts -/

namespace Operator

theorem accepts_ne (order : Option Ordering) : accepts .ne order = ! accepts .eq order := by
  simp [accepts]

theorem accepts_le (order : Option Ordering) :
    accepts .le order = (accepts .lt order || accepts .eq order) := rfl

theorem accepts_ge (order : Option Ordering) :
    accepts .ge order = (accepts .gt order || accepts .eq order) := rfl

theorem accepts_none {operator : Operator} : accepts operator none = true ↔ operator = .ne := by
  cases operator <;> simp [accepts]

def ofOrder : Ordering → Operator
  | .lt => .lt
  | .eq => .eq
  | .gt => .gt

theorem ofOrder_mem (order : Ordering) : ofOrder order ∈ [lt, eq, gt] := by
  cases order <;> simp [ofOrder]

theorem ne_xor_of_mem {operator : Operator} (h : operator ∈ [lt, eq, gt]) : operator ≠ xor := by
  intro hxor
  simp [hxor] at h

theorem accepts_some_iff {operator : Operator} (h : operator ∈ [lt, eq, gt]) {order : Ordering} :
    accepts operator (some order) = true ↔ operator = ofOrder order := by
  simp only [List.mem_cons, List.not_mem_nil, or_false] at h
  obtain rfl | rfl | rfl := h <;> cases order <;> decide

theorem existsUnique_accepts (order : Ordering) :
    ∃! operator, operator ∈ [lt, eq, gt] ∧ accepts operator (some order) = true := by
  refine ⟨ofOrder order, ⟨ofOrder_mem order, (accepts_some_iff (ofOrder_mem order)).2 rfl⟩, ?_⟩
  intro operator h
  exact (accepts_some_iff h.1).1 h.2

end Operator

/-! ## A literal -/

namespace Value

variable {v : Value} {literal : String}

theorem isScalar_ofJson_iff {json : Json} : (ofJson json).IsScalar ↔
    (∀ items, json ≠ .array items) ∧ ∀ members, json ≠ .object members := by
  cases json <;> simp [IsScalar, ofJson, isList]

theorem evaluate_literal (h : v.IsScalar) {order : Option Ordering}
    (horder : v.compareWith literal = .ok order) (key : String) (operator : Operator)
    (hoperator : operator ≠ .xor) :
    evaluate ⟨key, operator, .literal literal⟩ v = .ok (.ofBool (operator.accepts order)) := by
  rw [evaluate_eq_ok_iff h.1]
  cases operator with
  | xor => exact absurd rfl hoperator
  | _ => simp [evaluateScalar, horder]

theorem exists_evaluate_literal (h : v.IsScalar) (key : String) (operator : Operator)
    (literal : String) : ∃ b, evaluate ⟨key, operator, .literal literal⟩ v = .ok (.ofBool b) := by
  by_cases hoperator : operator = .xor
  · subst hoperator
    exact ⟨_, (evaluate_eq_ok_iff h.1).2 rfl⟩
  · obtain ⟨order, horder⟩ := exists_compareWith h literal
    exact ⟨_, evaluate_literal h horder key operator hoperator⟩

/-- A text, and what is null or absent, is in an order with every literal. A number or a boolean is
in one with the literals that spell a number. -/
def HasOrder (v : Value) (literal : String) : Prop :=
  v = .absent ∨ v = .null ∨ (∃ s, v = .text s) ∨ ∃ x, readNumber literal = some x

theorem compareWith_eq_none_iff (h : v.IsScalar) : v.compareWith literal = .ok none ↔
    ((∃ b, v = .bool b) ∨ ∃ x, v = .number x) ∧ readNumber literal = none := by
  cases v with
  | list items => cases h.1
  | object => exact absurd rfl h.2
  | _ => simp [compareWith, orderNumber]

theorem not_hasOrder_iff (h : v.IsScalar) :
    ¬ v.HasOrder literal ↔ v.compareWith literal = .ok none := by
  rw [compareWith_eq_none_iff h]
  cases v with
  | list items => cases h.1
  | object => exact absurd rfl h.2
  | _ => simp [HasOrder, Option.eq_none_iff_forall_ne_some]

theorem exists_compareWith_of_hasOrder (h : v.IsScalar) (horder : v.HasOrder literal) :
    ∃ order, v.compareWith literal = .ok (some order) := by
  obtain ⟨order, hcompare⟩ := exists_compareWith h literal
  cases order with
  | some order => exact ⟨order, hcompare⟩
  | none => exact absurd horder ((not_hasOrder_iff h).2 hcompare)

end Value

/-- On a scalar and a literal no operator is skipped or in error, and the operators that compare
agree with one another. -/
theorem operators_agree {v : Value} (hv : v.IsScalar) (key literal : String) :
    let c (operator : Operator) : Condition := ⟨key, operator, .literal literal⟩
    (∀ operator, (c operator).Passes v ∨ (c operator).Fails v) ∧
      ((c .ne).Passes v ↔ (c .eq).Fails v) ∧
      ((c .le).Passes v ↔ (c .lt).Passes v ∨ (c .eq).Passes v) ∧
      ((c .ge).Passes v ↔ (c .gt).Passes v ∨ (c .eq).Passes v) ∧
      (v.HasOrder literal → ∃! operator, operator ∈ [.lt, .eq, .gt] ∧ (c operator).Passes v) ∧
      (¬ v.HasOrder literal →
        ∀ operator, operator ≠ .xor → ((c operator).Passes v ↔ operator = .ne)) ∧
      (v.compareWith literal = .ok none ↔ ¬ v.HasOrder literal) ∧
      (¬ v.HasOrder literal ↔
        ((∃ b, v = .bool b) ∨ ∃ x, v = .number x) ∧ readNumber literal = none) := by
  intro c
  obtain ⟨order, horder⟩ := Value.exists_compareWith hv literal
  have heval := Value.evaluate_literal hv horder key
  have hpasses (operator : Operator) (hoperator : operator ≠ .xor) :
      (c operator).Passes v ↔ operator.accepts order = true := by
    rw [Condition.Passes, heval operator hoperator, Except.ok.injEq, Evaluation.ofBool_eq_pass_iff]
  have hfails : (c .eq).Fails v ↔ Operator.eq.accepts order = false := by
    rw [Condition.Fails, heval .eq nofun, Except.ok.injEq, Evaluation.ofBool_eq_fail_iff]
  refine ⟨fun operator => ?_, ?_, ?_, ?_, fun hordered => ?_, fun hunordered operator hoperator => ?_,
    (Value.not_hasOrder_iff hv).symm,
    (Value.not_hasOrder_iff hv).trans (Value.compareWith_eq_none_iff hv)⟩
  · obtain ⟨b, hb⟩ := Value.exists_evaluate_literal hv key operator literal
    cases b with
    | true => exact .inl hb
    | false => exact .inr hb
  · rw [hpasses .ne nofun, hfails, Operator.accepts_ne, Bool.not_eq_true']
  · rw [hpasses .le nofun, hpasses .lt nofun, hpasses .eq nofun, Operator.accepts_le,
      Bool.or_eq_true]
  · rw [hpasses .ge nofun, hpasses .gt nofun, hpasses .eq nofun, Operator.accepts_ge,
      Bool.or_eq_true]
  · obtain ⟨place, hplace⟩ := Value.exists_compareWith_of_hasOrder hv hordered
    obtain rfl : order = some place := Except.ok.inj (horder.symm.trans hplace)
    have hthree (operator : Operator) : operator ∈ [.lt, .eq, .gt] ∧ (c operator).Passes v ↔
        operator ∈ [.lt, .eq, .gt] ∧ operator.accepts (some place) = true :=
      and_congr_right fun hmem => hpasses operator (Operator.ne_xor_of_mem hmem)
    simp only [hthree]
    exact Operator.existsUnique_accepts place
  · obtain rfl : order = none :=
      Except.ok.inj (horder.symm.trans ((Value.not_hasOrder_iff hv).1 hunordered))
    rw [hpasses operator hoperator, Operator.accepts_none]

theorem operators_agree_word : (Value.ofJson (.bool true)).IsScalar ∧
    ¬ (Value.ofJson (.bool true)).HasOrder "true" ∧
    ∀ operator, operator ≠ .xor →
      (Condition.Passes ⟨"loved", operator, .literal "true"⟩ (.ofJson (.bool true)) ↔
        operator = .ne) := by
  have hscalar : (Value.ofJson (.bool true)).IsScalar := Value.isScalar_ofJson_iff.2 ⟨nofun, nofun⟩
  obtain ⟨-, -, -, -, -, hunordered, -, hnot⟩ := operators_agree hscalar "loved" "true"
  have hnone : ¬ (Value.ofJson (.bool true)).HasOrder "true" := hnot.2 ⟨.inl ⟨true, rfl⟩, rfl⟩
  exact ⟨hscalar, hnone, hunordered hnone⟩

/-! ## A set of literals -/

namespace Value

variable {v : Value} {xs ys : List String}

theorem equalsAny_object (xs : List String) :
    equalsAny .object xs = if xs = [] then .ok false else .error .object := by
  cases xs <;> rfl

theorem equalsAny_of_mem_iff (h : v.isList = false) (hmem : ∀ x, x ∈ xs ↔ x ∈ ys) :
    equalsAny v xs = equalsAny v ys := by
  by_cases hobject : v = .object
  · have hnil : xs = [] ↔ ys = [] := by simp [List.eq_nil_iff_forall_not_mem, hmem]
    rw [hobject, equalsAny_object, equalsAny_object, if_congr hnil rfl rfl]
  · simp only [equalsAny_of_isScalar ⟨h, hobject⟩, hmem]

theorem evaluate_set_of_mem_iff (hmem : ∀ x, x ∈ xs ↔ x ∈ ys) (key : String) (operator : Operator)
    (v : Value) : evaluate ⟨key, operator, .set xs⟩ v = evaluate ⟨key, operator, .set ys⟩ v := by
  cases hlist : v.isList with
  | true => simp [evaluate, hlist]
  | false =>
    have hany := equalsAny_of_mem_iff hlist hmem
    cases operator <;> simp only [evaluate, evaluateScalar, hany]

theorem passes_eq_iff (h : v.IsScalar) (key literal : String) :
    Condition.Passes ⟨key, .eq, .literal literal⟩ v ↔ v.Equals literal := by
  obtain ⟨order, horder⟩ := exists_compareWith h literal
  simp [Condition.Passes, evaluate_literal h horder key .eq nofun, Operator.accepts, Equals, horder]

theorem passes_ne_iff (h : v.IsScalar) (key literal : String) :
    Condition.Passes ⟨key, .ne, .literal literal⟩ v ↔ ¬ v.Equals literal := by
  obtain ⟨order, horder⟩ := exists_compareWith h literal
  simp [Condition.Passes, evaluate_literal h horder key .ne nofun, Operator.accepts, Equals, horder]

end Value

/-- With a set `==` asks for any of its literals and `!=` for none of them. Other operators do not
take a set, and no condition applies to a list. -/
theorem evaluate_set_any_none (key : String) (literals : List String) (v : Value) :
    (v.IsScalar →
      ((Condition.oneOf key literals).Passes v ↔
        ∃ literal ∈ literals, Condition.Passes ⟨key, .eq, .literal literal⟩ v) ∧
      ((Condition.noneOf key literals).Passes v ↔
        ∀ literal ∈ literals, Condition.Passes ⟨key, .ne, .literal literal⟩ v) ∧
      ∃ any, evaluate (.oneOf key literals) v = .ok (.ofBool any) ∧
        evaluate (.noneOf key literals) v = .ok (.ofBool (! any))) ∧
    (v = .object →
      (literals ≠ [] → ∀ c ∈ [Condition.oneOf key literals, .noneOf key literals],
        evaluate c v = .error (.unsupportedValue key .object)) ∧
      (literals = [] →
        (Condition.oneOf key literals).Fails v ∧ (Condition.noneOf key literals).Passes v)) ∧
    (∀ others, (∀ literal, literal ∈ others ↔ literal ∈ literals) → ∀ operator,
      evaluate ⟨key, operator, .set others⟩ v = evaluate ⟨key, operator, .set literals⟩ v) ∧
    (v.isList = false → ∀ operator, operator ≠ .eq → operator ≠ .ne →
      evaluate ⟨key, operator, .set literals⟩ v = .ok (.skipped (.setOperand operator))) ∧
    (v.isList = true → ∀ c : Condition, evaluate c v = .ok (.skipped .multiValued)) := by
  refine ⟨fun hscalar => ?_, ?_, fun others hmem operator => ?_, fun hlist operator heq hne => ?_,
    fun hlist c => ?_⟩
  · obtain ⟨honeOf, hnoneOf⟩ := Value.evaluate_set hscalar key literals
    refine ⟨?_, ?_, _, honeOf, hnoneOf⟩
    · simp [Condition.Passes, honeOf, ← Value.passes_eq_iff hscalar key]
    · simp [Condition.Passes, hnoneOf, ← Value.passes_ne_iff hscalar key]
  · intro hobject
    subst hobject
    have hany := Value.equalsAny_object literals
    constructor
    · intro hne
      simp [evaluate, Condition.oneOf, Condition.noneOf, evaluateScalar, hany, hne, Value.isList,
        Except.mapError]
    · intro hnil
      subst hnil
      exact ⟨rfl, rfl⟩
  · exact Value.evaluate_set_of_mem_iff hmem key operator v
  · rw [Value.evaluate_eq_ok_iff hlist]
    cases operator with
    | eq => exact absurd rfl heq
    | ne => exact absurd rfl hne
    | _ => rfl
  · simp [evaluate, hlist]

theorem evaluate_set_any_none_two :
    let two : Value := .number (.ofInt 2)
    two.IsScalar ∧ (Condition.oneOf "n" ["x", "0x2"]).Passes two ∧
      ¬ (Condition.noneOf "n" ["x", "0x2"]).Passes two ∧
      evaluate (.noneOf "n" ["x", "0x2"]) .object = .error (.unsupportedValue "n" .object) := by
  intro two
  have hscalar : two.IsScalar := ⟨rfl, nofun⟩
  have hequal : Condition.Passes ⟨"n", .eq, .literal "0x2"⟩ two := by decide +kernel
  have hnot : ¬ Condition.Passes ⟨"n", .ne, .literal "0x2"⟩ two := by decide +kernel
  obtain ⟨hany, hnone, -⟩ := (evaluate_set_any_none "n" ["x", "0x2"] two).1 hscalar
  obtain ⟨hobject, -⟩ := (evaluate_set_any_none "n" ["x", "0x2"] .object).2.1 rfl
  exact ⟨hscalar, hany.2 ⟨"0x2", by simp, hequal⟩, fun h => hnot (hnone.1 h "0x2" (by simp)),
    hobject (by simp) _ (by simp)⟩

end ListenQuery

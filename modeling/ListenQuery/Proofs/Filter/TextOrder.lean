import ListenQuery.Proofs.Filter.Evaluation

/-!
# Conditions on texts in order

The order of texts is a total preorder, and a condition that compares texts only sees their places
in it. So texts that share a place can stand for each other, both as the attribute and as a literal.
The operator `^` does not compare: it asks whether a text is empty and what a literal spells.
-/

namespace ListenQuery

open Collation

namespace Value

variable {v w : Value}

theorem equalsAny_congr {xs ys : List String}
    (h : xs.map (v.compareWith ·) = ys.map (w.compareWith ·)) :
    equalsAny v xs = equalsAny w ys := by
  induction xs generalizing ys with
  | nil =>
    obtain rfl : ys = [] := by simpa using h.symm
    rfl
  | cons x xs ih =>
    obtain ⟨y, ys, rfl, hxy, hrest⟩ := List.map_eq_cons_iff.1 h.symm
    simp only [equalsAny, hxy, ih hrest.symm]

/-- The literals of two operands are in the same order with two values, one by one. -/
inductive Alike (v w : Value) : Operand → Operand → Prop
  | literal {x y : String} (h : v.compareWith x = w.compareWith y) :
    Alike v w (.literal x) (.literal y)
  | set {xs ys : List String} (h : xs.map (v.compareWith ·) = ys.map (w.compareWith ·)) :
    Alike v w (.set xs) (.set ys)

theorem alike_of_compareWith (h : ∀ literal, v.compareWith literal = w.compareWith literal)
    (operand : Operand) : Alike v w operand operand := by
  cases operand with
  | literal x => exact .literal (h x)
  | set xs => exact .set (List.map_congr_left fun x _ => h x)

theorem evaluate_congr {key : String} {operator : Operator} {operand operand' : Operand}
    (hlist : v.isList = w.isList) (hoperator : operator ≠ .xor) (h : Alike v w operand operand') :
    evaluate ⟨key, operator, operand⟩ v = evaluate ⟨key, operator, operand'⟩ w := by
  have hscalar : evaluateScalar operator operand v = evaluateScalar operator operand' w := by
    cases h with
    | literal h => cases operator <;> simp_all [evaluateScalar]
    | set h =>
      have hany := equalsAny_congr h
      cases operator <;> simp only [evaluateScalar, hany]
  simp only [evaluate, hlist, hscalar]

theorem exists_collate (h : v = .absent ∨ v = .null ∨ ∃ s, v = .text s) :
    ∃ s, ∀ literal, v.compareWith literal = .ok (some (collate s literal)) := by
  obtain rfl | rfl | ⟨s, rfl⟩ := h
  · exact ⟨"", fun _ => rfl⟩
  · exact ⟨"", fun _ => rfl⟩
  · exact ⟨s, fun _ => rfl⟩

end Value

/-- The order of texts is reflexive, total and transitive. Where it puts two texts in one place, a
condition that compares gives the same for both as its attribute, and the same on every text with
the one or the other as its literal or among its literals. -/
theorem collate_coherent (a b c : String) :
    collate a a = .eq ∧ collate b a = (collate a b).swap ∧
      (collate a b ≠ .gt → collate b c ≠ .gt → collate a c ≠ .gt) ∧
      (collate a b = .eq → ∀ (key : String) (operator : Operator), operator ≠ .xor →
        (∀ operand : Operand, evaluate ⟨key, operator, operand⟩ (.text a) =
          evaluate ⟨key, operator, operand⟩ (.text b)) ∧
        ∀ v : Value, (v = .absent ∨ v = .null ∨ ∃ s, v = .text s) →
          evaluate ⟨key, operator, .literal a⟩ v = evaluate ⟨key, operator, .literal b⟩ v ∧
          ∀ before after : List String,
            evaluate ⟨key, operator, .set (before ++ a :: after)⟩ v =
              evaluate ⟨key, operator, .set (before ++ b :: after)⟩ v) := by
  refine ⟨collate_self a, collate_swap a b, collate_ne_gt_trans, fun hplace => ?_⟩
  intro key operator hoperator
  constructor
  · intro operand
    have hsame (literal : String) :
        (Value.text a).compareWith literal = (Value.text b).compareWith literal := by
      rw [Value.compareWith, Value.compareWith, Std.TransCmp.congr_left hplace]
    exact Value.evaluate_congr rfl hoperator (Value.alike_of_compareWith hsame operand)
  · intro v htext
    obtain ⟨s, hcollate⟩ := Value.exists_collate htext
    have hsame : v.compareWith a = v.compareWith b := by
      rw [hcollate, hcollate, Std.TransCmp.congr_right hplace]
    refine ⟨Value.evaluate_congr rfl hoperator (.literal hsame), fun before after => ?_⟩
    have hset : (before ++ a :: after).map (v.compareWith ·) =
        (before ++ b :: after).map (v.compareWith ·) := by
      simp only [List.map_append, List.map_cons, hsame]
    exact Value.evaluate_congr rfl hoperator (.set hset)

end ListenQuery

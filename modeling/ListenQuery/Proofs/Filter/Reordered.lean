import ListenQuery.Proofs.Filter.Check

/-!
# Conditions in another order

A listen is accepted if no condition stops the check, and that does not depend on their order. Nor do
the warnings of a listen that is accepted, but for their own order. Where some conditions stop the
check the order decides which of them does: one that fails rejects the listen, and one that cannot
be evaluated is the error.
-/

namespace ListenQuery

section

variable {get : String → Value} {conditions reordered : List Condition}
  {result result' : Except ExpressionError Verdict}

theorem exists_checkAll_eq_accepted_iff :
    (∃ warnings, checkAll get conditions = .ok ⟨true, warnings⟩) ↔
      ∀ c ∈ conditions, ¬ c.Stops get := by
  simp [checkAll_eq_accepted_iff]

/-- What the results of checking conditions in two orders have in common. -/
structure AgreeUpToOrder (get : String → Value) (conditions reordered : List Condition)
    (result result' : Except ExpressionError Verdict) : Prop where
  accepts_iff : (∃ w, result = .ok ⟨true, w⟩) ↔ ∃ w', result' = .ok ⟨true, w'⟩
  warnings : ∀ w w', result = .ok ⟨true, w⟩ → result' = .ok ⟨true, w'⟩ →
    w = conditions.filterMap (·.warning? get) ∧ w' = reordered.filterMap (·.warning? get) ∧
      w.Perm w'
  of_error : ∀ e, result = .error e →
    (∃ e', result' = .error e') ∨ ∃ w', result' = .ok ⟨false, w'⟩
  of_evaluates : (∀ c ∈ conditions, ∃ evaluation, evaluate c (get c.key) = .ok evaluation) →
    (∃ v, result = .ok v) ∧ ∃ v', result' = .ok v'

theorem error_or_rejected (h : ∀ w, result ≠ .ok ⟨true, w⟩) :
    (∃ e, result = .error e) ∨ ∃ w, result = .ok ⟨false, w⟩ := by
  cases result with
  | error e => exact .inl ⟨e, rfl⟩
  | ok v =>
    obtain ⟨accepted, w⟩ := v
    cases accepted with
    | true => exact absurd rfl (h w)
    | false => exact .inr ⟨w, rfl⟩

theorem exists_checkAll_eq_ok
    (h : ∀ c ∈ conditions, ∃ evaluation, evaluate c (get c.key) = .ok evaluation) :
    ∃ v, checkAll get conditions = .ok v := by
  cases hresult : checkAll get conditions with
  | ok v => exact ⟨v, rfl⟩
  | error e =>
    obtain ⟨c, hc, herror⟩ := exists_error_of_checkAll hresult
    obtain ⟨evaluation, heval⟩ := h c hc
    cases herror.symm.trans heval

theorem agreeUpToOrder_checkAll (h : conditions.Perm reordered) (get : String → Value) :
    AgreeUpToOrder get conditions reordered (checkAll get conditions) (checkAll get reordered) := by
  have haccepts : (∃ w, checkAll get conditions = .ok ⟨true, w⟩) ↔
      ∃ w', checkAll get reordered = .ok ⟨true, w'⟩ := by
    simp only [exists_checkAll_eq_accepted_iff, h.mem_iff]
  refine ⟨haccepts, fun w w' hw hw' => ?_, fun e he => ?_, fun hall => ⟨?_, ?_⟩⟩
  · obtain ⟨-, rfl⟩ := checkAll_eq_accepted_iff.1 hw
    obtain ⟨-, rfl⟩ := checkAll_eq_accepted_iff.1 hw'
    exact ⟨rfl, rfl, h.filterMap _⟩
  · refine error_or_rejected fun w' hw' => ?_
    obtain ⟨w, hw⟩ := haccepts.2 ⟨w', hw'⟩
    cases he.symm.trans hw
  · exact exists_checkAll_eq_ok hall
  · exact exists_checkAll_eq_ok fun c hc => hall c (h.mem_iff.2 hc)

theorem agreeUpToOrder_rejected :
    AgreeUpToOrder get conditions reordered (.ok ⟨false, []⟩) (.ok ⟨false, []⟩) where
  accepts_iff := Iff.rfl
  warnings := nofun
  of_error := nofun
  of_evaluates _ := ⟨⟨_, rfl⟩, _, rfl⟩

/-- The order of the conditions does not decide whether a record is accepted, whatever its
attributes are, and so it does not decide whether a filter accepts a listen. -/
theorem check_perm (h : conditions.Perm reordered) :
    (∀ get, AgreeUpToOrder get conditions reordered (checkAll get conditions)
      (checkAll get reordered)) ∧
    ∀ (range : TimeRange) (l : Listen), AgreeUpToOrder l.get conditions reordered
      (Filter.check ⟨range, conditions⟩ l) (Filter.check ⟨range, reordered⟩ l) := by
  refine ⟨agreeUpToOrder_checkAll h, fun range l => ?_⟩
  unfold Filter.check
  split
  · exact agreeUpToOrder_checkAll h l.get
  · exact agreeUpToOrder_rejected

end

theorem check_perm_object :
    let conditions : List Condition :=
      [⟨"nested", .eq, .literal "x"⟩, ⟨"loved", .eq, .literal "1"⟩]
    let l := ((Listen.ofNames 5 "A" "T").insertInfo "nested" (.object [])).insertInfo "loved"
      (.bool false)
    conditions.Perm conditions.reverse ∧
      Filter.check ⟨.default, conditions⟩ l = .error (.unsupportedValue "nested" .object) ∧
      Filter.check ⟨.default, conditions.reverse⟩ l = .ok ⟨false, []⟩ ∧
      AgreeUpToOrder l.get conditions conditions.reverse (Filter.check ⟨.default, conditions⟩ l)
        (Filter.check ⟨.default, conditions.reverse⟩ l) := by
  intro conditions l
  have hperm : conditions.Perm conditions.reverse := conditions.reverse_perm.symm
  exact ⟨hperm, by decide +kernel, by decide +kernel, (check_perm hperm).2 .default l⟩

end ListenQuery

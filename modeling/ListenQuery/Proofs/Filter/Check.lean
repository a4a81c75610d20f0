import ListenQuery.Filter.Basic
import ListenQuery.Proofs.Results

/-!
# What checking a listen means

Outside the range nothing is evaluated. Within it the first condition that fails or cannot be
evaluated decides, and a listen without such a condition is accepted. The warnings are those of the
conditions before the one that decides.
-/

namespace ListenQuery

def Condition.Stops (c : Condition) (get : String → Value) : Prop :=
  evaluate c (get c.key) = .ok .fail ∨ ∃ e, evaluate c (get c.key) = .error e

def Condition.warning? (c : Condition) (get : String → Value) : Option Warning :=
  match evaluate c (get c.key) with
  | .ok (.skipped reason) => some ⟨c.key, reason⟩
  | _ => none

inductive ChecksAll (get : String → Value) (conditions : List Condition) :
    Except ExpressionError Verdict → Prop
  | accepted (h : ∀ c ∈ conditions, ¬ c.Stops get) :
    ChecksAll get conditions (.ok ⟨true, conditions.filterMap (·.warning? get)⟩)
  | rejected {passed : List Condition} {c : Condition} {rest : List Condition}
    (hsplit : conditions = passed ++ c :: rest) (h : ∀ d ∈ passed, ¬ d.Stops get)
    (hc : evaluate c (get c.key) = .ok .fail) :
    ChecksAll get conditions (.ok ⟨false, passed.filterMap (·.warning? get)⟩)
  | error {passed : List Condition} {c : Condition} {rest : List Condition}
    {e : ExpressionError} (hsplit : conditions = passed ++ c :: rest)
    (h : ∀ d ∈ passed, ¬ d.Stops get) (hc : evaluate c (get c.key) = .error e) :
    ChecksAll get conditions (.error e)

/-- The result of checking a listen: nothing is evaluated outside the range. -/
inductive Filter.Checks (f : Filter) (l : Listen) : Except ExpressionError Verdict → Prop
  | outside (h : ¬ (f.range.min < l.listenedAt ∧ l.listenedAt < f.range.max)) :
    Checks f l (.ok ⟨false, []⟩)
  | within {result : Except ExpressionError Verdict}
    (h : f.range.min < l.listenedAt ∧ l.listenedAt < f.range.max)
    (hall : ChecksAll l.get f.conditions result) : Checks f l result

section

variable {get : String → Value} {conditions passed : List Condition}

theorem checkAll_append (rest : List Condition) (h : ∀ d ∈ passed, ¬ d.Stops get) :
    checkAll get (passed ++ rest) = (checkAll get rest).map fun v =>
      { v with warnings := passed.filterMap (·.warning? get) ++ v.warnings } := by
  induction passed with
  | nil => cases hrest : checkAll get rest <;> simp [hrest]
  | cons d passed ih =>
    obtain ⟨hd, hpassed⟩ := List.forall_mem_cons.1 h
    have hmore := ih hpassed
    rw [List.cons_append, checkAll]
    cases heval : evaluate d (get d.key) with
    | error e => exact absurd (.inr ⟨e, heval⟩) hd
    | ok evaluation =>
      cases evaluation with
      | fail => exact absurd (.inl heval) hd
      | pass => simp [Condition.warning?, heval, hmore]
      | skipped reason =>
        simp only [hmore]
        cases checkAll get rest <;> simp [Condition.warning?, heval, Verdict.addWarning]

theorem exists_first_stop (get : String → Value) (conditions : List Condition) :
    (∀ c ∈ conditions, ¬ c.Stops get) ∨ ∃ passed c rest, conditions = passed ++ c :: rest ∧
      (∀ d ∈ passed, ¬ d.Stops get) ∧ c.Stops get := by
  induction conditions with
  | nil => exact .inl (by simp)
  | cons c conditions ih =>
    by_cases hc : c.Stops get
    · exact .inr ⟨[], c, conditions, rfl, by simp, hc⟩
    · obtain hnone | ⟨passed, d, rest, rfl, hpassed, hd⟩ := ih
      · exact .inl (List.forall_mem_cons.2 ⟨hc, hnone⟩)
      · exact .inr ⟨c :: passed, d, rest, rfl, List.forall_mem_cons.2 ⟨hc, hpassed⟩, hd⟩

theorem checksAll_checkAll (get : String → Value) (conditions : List Condition) :
    ChecksAll get conditions (checkAll get conditions) := by
  obtain hnone | ⟨passed, c, rest, rfl, hpassed, hfail | ⟨e, herror⟩⟩ :=
    exists_first_stop get conditions
  · have hcheck := checkAll_append [] hnone
    rw [List.append_nil] at hcheck
    rw [hcheck]
    simpa [checkAll] using ChecksAll.accepted hnone
  · rw [checkAll_append _ hpassed]
    simpa [checkAll, hfail] using ChecksAll.rejected rfl hpassed hfail
  · rw [checkAll_append _ hpassed]
    simpa [checkAll, herror] using ChecksAll.error rfl hpassed herror

theorem ChecksAll.eq_checkAll {result : Except ExpressionError Verdict}
    (h : ChecksAll get conditions result) : result = checkAll get conditions := by
  cases h with
  | accepted hnone =>
    have hcheck := checkAll_append [] hnone
    simpa [checkAll] using hcheck.symm
  | rejected hsplit hpassed hc =>
    rw [hsplit, checkAll_append _ hpassed]
    simp [checkAll, hc]
  | error hsplit hpassed hc =>
    rw [hsplit, checkAll_append _ hpassed]
    simp [checkAll, hc]

theorem checkAll_eq_accepted_iff {warnings : List Warning} :
    checkAll get conditions = .ok ⟨true, warnings⟩ ↔
      (∀ c ∈ conditions, ¬ c.Stops get) ∧ warnings = conditions.filterMap (·.warning? get) := by
  constructor
  · intro h
    have hchecks := checksAll_checkAll get conditions
    rw [h] at hchecks
    cases hchecks with
    | accepted hnone => exact ⟨hnone, rfl⟩
  · intro h
    obtain ⟨hnone, rfl⟩ := h
    exact (ChecksAll.accepted hnone).eq_checkAll.symm

theorem exists_error_of_checkAll {e : ExpressionError} (h : checkAll get conditions = .error e) :
    ∃ c ∈ conditions, evaluate c (get c.key) = .error e := by
  have hchecks := checksAll_checkAll get conditions
  rw [h] at hchecks
  cases hchecks with
  | error hsplit _ hc => exact ⟨_, by simp [hsplit], hc⟩

end

theorem Filter.check_eq_iff {f : Filter} {l : Listen} {result : Except ExpressionError Verdict} :
    f.check l = result ↔ f.Checks l result := by
  have hcontains : f.range.contains l.listenedAt = true ↔
      f.range.min < l.listenedAt ∧ l.listenedAt < f.range.max := by
    simp [TimeRange.contains]
  unfold Filter.check
  by_cases hrange : f.range.min < l.listenedAt ∧ l.listenedAt < f.range.max
  · rw [if_pos (hcontains.2 hrange)]
    constructor
    · rintro rfl
      exact .within hrange (checksAll_checkAll _ _)
    · intro h
      cases h with
      | outside hout => exact absurd hrange hout
      | within _ hall => exact hall.eq_checkAll.symm
  · rw [if_neg (hcontains.not.2 hrange)]
    constructor
    · rintro rfl
      exact .outside hrange
    · intro h
      cases h with
      | outside => rfl
      | within hin => exact absurd hin hrange

theorem Filter.check_of_fail {f : Filter} {l : Listen} {c : Condition}
    (hrange : f.range.contains l.listenedAt = true) (hc : c ∈ f.conditions)
    (hfail : evaluate c (l.get c.key) = .ok .fail) :
    (∃ warnings, f.check l = .ok ⟨false, warnings⟩) ∨
      ∃ d e, evaluate d (l.get d.key) = .error e ∧ f.check l = .error e := by
  rw [Filter.check, if_pos hrange]
  cases hresult : checkAll l.get f.conditions with
  | error e =>
    obtain ⟨d, -, hd⟩ := exists_error_of_checkAll hresult
    exact .inr ⟨d, e, hd, rfl⟩
  | ok verdict =>
    obtain ⟨accepted, warnings⟩ := verdict
    cases accepted with
    | true => exact absurd (.inl hfail) ((checkAll_eq_accepted_iff.1 hresult).1 c hc)
    | false => exact .inl ⟨warnings, rfl⟩

end ListenQuery

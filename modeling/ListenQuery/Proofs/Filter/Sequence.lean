import ListenQuery.Filter.Basic
import ListenQuery.Proofs.Results

/-!
# Filters one after the other

Checking conditions and then more conditions is checking the first ones and going on with the others
where they accept. So the filter with the conditions of two filters gives the verdict of the second
on what the first accepts, with the warnings of both.
-/

namespace ListenQuery

/-- The filter with the conditions of two filters, within the range of the first. -/
def Filter.and (f g : Filter) : Filter := ⟨f.range, f.conditions ++ g.conditions⟩

def Verdict.followedBy (v : Verdict) (next : Except ExpressionError Verdict) :
    Except ExpressionError Verdict :=
  if v.accepted then next.map fun w => { w with warnings := v.warnings ++ w.warnings } else .ok v

namespace Verdict

variable {next : Except ExpressionError Verdict}

theorem followedBy_nil : followedBy ⟨true, []⟩ next = next := by
  cases next <;> rfl

theorem map_addWarning_followedBy (w : Warning) (v : Verdict) :
    (v.addWarning w).followedBy next = (v.followedBy next).map (addWarning w) := by
  obtain ⟨accepted, warnings⟩ := v
  cases accepted with
  | false => rfl
  | true => cases next <;> rfl

end Verdict

theorem checkAll_append_eq_bind (get : String → Value) (conditions more : List Condition) :
    checkAll get (conditions ++ more) =
      checkAll get conditions >>= (·.followedBy (checkAll get more)) := by
  induction conditions with
  | nil => exact Verdict.followedBy_nil.symm
  | cons c rest ih =>
    rw [List.cons_append, checkAll, checkAll]
    cases evaluate c (get c.key) with
    | error e => rfl
    | ok evaluation =>
      cases evaluation with
      | pass => exact ih
      | fail => rfl
      | skipped reason =>
        simp only [ih]
        cases checkAll get rest with
        | error e => rfl
        | ok v => exact (Verdict.map_addWarning_followedBy ⟨c.key, reason⟩ v).symm

theorem Filter.check_and {f g : Filter} (hrange : f.range = g.range) (l : Listen) :
    (f.and g).check l = f.check l >>= (·.followedBy (g.check l)) := by
  unfold Filter.check Filter.and
  rw [← hrange]
  split
  · exact checkAll_append_eq_bind l.get f.conditions g.conditions
  · rfl

end ListenQuery

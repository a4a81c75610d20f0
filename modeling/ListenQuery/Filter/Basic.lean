import ListenQuery.Filter.Evaluation
import ListenQuery.Listen.Basic
import ListenQuery.Time.Range

/-!
# Filters

A filter is a time range and conditions that must all hold. A listen outside the range is rejected
before any condition is looked at. Conditions are checked in order up to the first that fails;
those that are skipped leave a warning.
-/

namespace ListenQuery

structure Warning where
  key : String
  reason : SkipReason
  deriving DecidableEq, Repr

def Warning.message (w : Warning) : String :=
  "condition on '" ++ w.key ++ "' skipped: " ++ w.reason.message

structure Verdict where
  accepted : Bool
  warnings : List Warning
  deriving DecidableEq, Repr

def Verdict.addWarning (w : Warning) (v : Verdict) : Verdict :=
  { v with warnings := w :: v.warnings }

structure Filter where
  range : TimeRange
  conditions : List Condition
  deriving DecidableEq, Repr

def checkAll (get : String → Value) : List Condition → Except ExpressionError Verdict
  | [] => .ok ⟨true, []⟩
  | c :: rest =>
    match evaluate c (get c.key) with
    | .error e => .error e
    | .ok .fail => .ok ⟨false, []⟩
    | .ok .pass => checkAll get rest
    | .ok (.skipped reason) => (checkAll get rest).map (.addWarning ⟨c.key, reason⟩)

def Filter.check (f : Filter) (l : Listen) : Except ExpressionError Verdict :=
  if f.range.contains l.listenedAt then checkAll l.get f.conditions else .ok ⟨false, []⟩

end ListenQuery

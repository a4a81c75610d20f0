import ListenQuery.Proofs.Command.Writing
import Mathlib.Data.List.TakeWhile

/-!
# A run over listens

A run stops at the first line that cannot be read and at the first listen that cannot be checked.
It keeps the listens before that which the filter accepts as they were read; edits come after.
-/

namespace ListenQuery

namespace Filter

def stop? (f : Filter) : Except LineError Listen → Option Failure
  | .error e => some (.line e)
  | .ok l =>
    match f.check l with
    | .error e => some (.expression e)
    | .ok _ => none

/-- The listen of an element, if the filter accepts it unedited. -/
def kept? (f : Filter) : Except LineError Listen → Option Listen
  | .error _ => none
  | .ok l =>
    match f.check l with
    | .ok ⟨true, _⟩ => some l
    | _ => none

/-- The elements of a stream before the first that a run stops at. -/
def before (f : Filter) (stream : List (Except LineError Listen)) :
    List (Except LineError Listen) := stream.takeWhile fun x => (f.stop? x).isNone

def kept (f : Filter) (stream : List (Except LineError Listen)) : List Listen :=
  (f.before stream).filterMap f.kept?

theorem before_eq_self {f : Filter} {stream : List (Except LineError Listen)}
    (h : stream.findSome? f.stop? = none) : f.before stream = stream := by
  refine List.takeWhile_eq_self_iff.2 fun x hx => ?_
  rw [List.findSome?_eq_none_iff.1 h x hx, Option.isNone_none]

theorem stop?_of_check {f : Filter} {l : Listen} {verdict : Verdict} (h : f.check l = .ok verdict) :
    f.stop? (.ok l) = none := by simp [stop?, h]

theorem check_of_kept? {f : Filter} {x : Except LineError Listen} {l : Listen}
    (h : f.kept? x = some l) :
    x = .ok l ∧ ∃ warnings, f.check l = .ok ⟨true, warnings⟩ := by
  cases x with
  | error e => cases h
  | ok l' =>
    cases hcheck : f.check l' with
    | error e => simp [kept?, hcheck] at h
    | ok verdict =>
      obtain ⟨accepted, warnings⟩ := verdict
      cases accepted with
      | false => simp [kept?, hcheck] at h
      | true =>
        obtain rfl : l' = l := by simpa [kept?, hcheck] using h
        exact ⟨rfl, warnings, hcheck⟩

theorem kept?_of_check {f : Filter} {l : Listen} {warnings : List Warning}
    (h : f.check l = .ok ⟨true, warnings⟩) : f.kept? (.ok l) = some l := by simp [kept?, h]

section

variable {f : Filter} {x : Except LineError Listen} {rest : List (Except LineError Listen)}

theorem before_cons_of_stop {failure : Failure} (h : f.stop? x = some failure) :
    f.before (x :: rest) = [] := by simp [before, h]

theorem before_cons (h : f.stop? x = none) : f.before (x :: rest) = x :: f.before rest := by
  simp [before, h]

theorem kept_cons_of_stop {failure : Failure} (h : f.stop? x = some failure) :
    f.kept (x :: rest) = [] := by rw [kept, before_cons_of_stop h, List.filterMap_nil]

theorem kept_cons_of_none (hstop : f.stop? x = none) (hkept : f.kept? x = none) :
    f.kept (x :: rest) = f.kept rest := by
  rw [kept, before_cons hstop, List.filterMap_cons_none hkept, kept]

theorem kept_cons_of_some {l : Listen} (hstop : f.stop? x = none) (hkept : f.kept? x = some l) :
    f.kept (x :: rest) = l :: f.kept rest := by
  rw [kept, before_cons hstop, List.filterMap_cons_some hkept, kept]

end

end Filter

section

variable {f : Filter} {x : Except LineError Listen} (m : Modifier) (s : Sink) (write : Bool)
  (given : List UInt8) (rest : List (Except LineError Listen))

theorem runListens_of_stop {failure : Failure} (h : f.stop? x = some failure) :
    runListens f m s write given (x :: rest) = .fail failure [] := by
  cases x with
  | error e =>
    obtain rfl := Option.some.inj h
    rfl
  | ok l =>
    cases hcheck : f.check l with
    | error e =>
      obtain rfl : Failure.expression e = failure := by simpa [Filter.stop?, hcheck] using h
      simp [runListens, Filter.accepts, hcheck, Tally.after, Tally.fail, Tally.empty]
    | ok verdict => simp [Filter.stop?, hcheck] at h

theorem runListens_of_none (hstop : f.stop? x = none) (hkept : f.kept? x = none) :
    ∃ events, runListens f m s write given (x :: rest) =
      (runListens f m s write given rest).drop.after events := by
  cases x with
  | error e => cases hstop
  | ok l =>
    cases hcheck : f.check l with
    | error e => simp [Filter.stop?, hcheck] at hstop
    | ok verdict =>
      obtain ⟨accepted, warnings⟩ := verdict
      cases accepted with
      | false =>
        refine ⟨warnings.map (.skippedCondition · l.listenedAt), ?_⟩
        simp [runListens, Filter.accepts, hcheck]
      | true => simp [Filter.kept?, hcheck] at hkept

variable {l : Listen}

theorem runListens_of_counted (hkept : f.kept? x = some l) :
    ∃ events, runListens f m s false given (x :: rest) =
      ((runListens f m s false given rest).keep []).after events := by
  obtain ⟨rfl, warnings, hcheck⟩ := Filter.check_of_kept? hkept
  refine ⟨warnings.map (.skippedCondition · l.listenedAt), ?_⟩
  simp [runListens, Filter.accepts, hcheck]

theorem runListens_of_written (hkept : f.kept? x = some l)
    (hwritten : s.lineFault? given (m.apply l) = none) :
    ∃ events, runListens f m s true given (x :: rest) =
      ((runListens f m s true (given ++ (m.apply l).lineBytes) rest).keep
        (m.apply l).lineBytes).after events := by
  obtain ⟨rfl, warnings, hcheck⟩ := Filter.check_of_kept? hkept
  refine ⟨warnings.map (.skippedCondition · l.listenedAt), ?_⟩
  simp [runListens, Filter.accepts, hcheck, hwritten]

theorem runListens_of_fault {written : List UInt8} {failure : Failure}
    (hkept : f.kept? x = some l)
    (hfault : s.lineFault? given (m.apply l) = some (written, failure)) :
    ∃ events, runListens f m s true given (x :: rest) =
      (Tally.fail failure written).after events := by
  obtain ⟨rfl, warnings, hcheck⟩ := Filter.check_of_kept? hkept
  refine ⟨warnings.map (.skippedCondition · l.listenedAt), ?_⟩
  simp [runListens, Filter.accepts, hcheck, hfault]

end

theorem runListens_counted (f : Filter) (m : Modifier) (s : Sink) (given : List UInt8)
    (stream : List (Except LineError Listen)) :
    let t := runListens f m s false given stream
    t.failure = stream.findSome? f.stop? ∧ t.kept = (f.kept stream).length ∧
      t.total = (f.before stream).length ∧ t.written = [] := by
  intro t
  induction stream with
  | nil => exact ⟨rfl, rfl, rfl, rfl⟩
  | cons x rest ih =>
    obtain ⟨hfailure, hkept, htotal, hwritten⟩ := ih
    cases hstop : f.stop? x with
    | some failure =>
      rw [show t = _ from runListens_of_stop m s false given rest hstop,
        Filter.kept_cons_of_stop hstop, Filter.before_cons_of_stop hstop,
        List.findSome?_cons_of_isSome (by rw [hstop, Option.isSome_some]), hstop]
      exact ⟨rfl, rfl, rfl, rfl⟩
    | none =>
      rw [List.findSome?_cons_of_isNone (by rw [hstop, Option.isNone_none]),
        Filter.before_cons hstop, List.length_cons]
      cases hx : f.kept? x with
      | none =>
        obtain ⟨events, hrun⟩ := runListens_of_none m s false given rest hstop hx
        rw [show t = _ from hrun, Filter.kept_cons_of_none hstop hx]
        exact ⟨hfailure, hkept, congrArg (· + 1) htotal, hwritten⟩
      | some l =>
        obtain ⟨events, hrun⟩ := runListens_of_counted m s given rest hx
        rw [show t = _ from hrun, Filter.kept_cons_of_some hstop hx, List.length_cons]
        exact ⟨hfailure, congrArg (· + 1) hkept, congrArg (· + 1) htotal, hwritten⟩

/-- What a run that writes comes to. It writes the listens that it keeps, edited, and a line that
cannot be written comes before whatever stops the run later. -/
theorem runListens_written (f : Filter) (m : Modifier) (s : Sink) (given : List UInt8)
    (stream : List (Except LineError Listen)) :
    let t := runListens f m s true given stream
    let lines := s.writeLines given ((f.kept stream).map m.apply)
    t.written = lines.1 ∧ t.failure = lines.2.or (stream.findSome? f.stop?) := by
  intro t lines
  induction stream generalizing given with
  | nil => exact ⟨rfl, rfl⟩
  | cons x rest ih =>
    cases hstop : f.stop? x with
    | some failure =>
      have hfirst : (x :: rest).findSome? f.stop? = some failure := by
        rw [List.findSome?_cons_of_isSome (by rw [hstop, Option.isSome_some]), hstop]
      simp only [lines, show t = _ from runListens_of_stop m s true given rest hstop,
        Filter.kept_cons_of_stop hstop, hfirst]
      exact ⟨rfl, rfl⟩
    | none =>
      rw [List.findSome?_cons_of_isNone (by rw [hstop, Option.isNone_none])]
      cases hx : f.kept? x with
      | none =>
        obtain ⟨events, hrun⟩ := runListens_of_none m s true given rest hstop hx
        simp only [lines, show t = _ from hrun, Filter.kept_cons_of_none hstop hx]
        exact ih given
      | some l =>
        simp only [lines, Filter.kept_cons_of_some hstop hx, List.map_cons]
        cases hfault : s.lineFault? given (m.apply l) with
        | some fault =>
          obtain ⟨events, hrun⟩ := runListens_of_fault m s given rest hx hfault
          rw [show t = _ from hrun, Sink.writeLines_cons_of_fault hfault]
          exact ⟨rfl, rfl⟩
        | none =>
          obtain ⟨events, hrun⟩ := runListens_of_written m s given rest hx hfault
          obtain ⟨hwritten, hfailure⟩ := ih (given ++ (m.apply l).lineBytes)
          rw [show t = _ from hrun, Sink.writeLines_cons hfault]
          exact ⟨congrArg ((m.apply l).lineBytes ++ ·) hwritten, hfailure⟩

end ListenQuery

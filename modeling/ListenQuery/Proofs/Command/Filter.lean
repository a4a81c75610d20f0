import ListenQuery.Proofs.Command.Listens
import ListenQuery.Proofs.Files.System
import ListenQuery.Proofs.Listen.LineByLine

/-!
# The filter command

Without counting, the command writes the kept listens, edited, and fails with the first line that it
cannot write, with what stopped the run, or because it cannot flush what it has written. With
counting it writes nothing but, at the end of a run that is not stopped, how many lines it would
have written and how many lines of the input are not blank.
-/

namespace ListenQuery

open Number

/-- An input gives bytes: those of the standard input, or those of the file at some place. -/
inductive World.Gives (w : World) : Option Path → List UInt8 → Option Place → Prop
  | standard {input : Option Path} (h : isStandardInput input = true) : Gives w input w.input none
  | file {p : Path} {place : Place} {bytes : List UInt8} (h : isStandardInput (some p) = false)
    (hresolve : w.files.resolve p = .ok (place, .file bytes)) : Gives w (some p) bytes (some place)

/-- An output goes to the standard output, or to a file at some place that can be written. -/
inductive World.Directs (w : World) : Option Path → Option Place → Prop
  | standard : Directs w none none
  | file {p : Path} {place : Place} {files : FileSystem}
    (h : w.files.create p = .ok (place, files)) : Directs w (some p) (some place)

/-- What has been written to a target, with everything else as it was. -/
inductive Outcome.Wrote (w : World) (o : Outcome) : Option Place → List UInt8 → Prop
  | standard (hfiles : o.files = w.files) : Wrote w o none o.output
  | file {place : Place} {bytes : List UInt8} (houtput : o.output = [])
    (hplace : o.files.node? place = some (.file bytes))
    (hfiles : ∀ other, other ≠ place → o.files.node? other = w.files.node? other) :
    Wrote w o (some place) bytes

section

variable {w : World} {input output : Option Path} {bytes : List UInt8}
  {source target : Option Place}

theorem World.Directs.openTarget (h : w.Directs output target) :
    ∃ files, openTarget w.files output = .ok (target, files) ∧
      (∀ place, target ≠ some place → files.node? place = w.files.node? place) ∧
      { w with files }.sink target = w.sink target ∧
      ∀ given events failure,
        (deliver { w with files } target given events failure).Wrote w target
          ((w.sink target).through given) := by
  cases h with
  | standard => exact ⟨w.files, rfl, fun _ _ => rfl, rfl, fun _ _ _ => .standard rfl⟩
  | @file p place files hcreate =>
    obtain ⟨hnot, rfl⟩ := FileSystem.create_eq_ok hcreate
    refine ⟨w.files.set place (.file []), by simp [ListenQuery.openTarget, hcreate], ?_, rfl,
      fun given events failure => ?_⟩
    · intro other hother
      exact FileSystem.node?_set_of_ne fun heq => hother (congrArg some heq.symm)
    · have hset : (deliver { w with files := w.files.set place (.file []) } (some place) given
          events failure).files =
            w.files.set place (.file ((w.files.sink place).through given)) :=
        FileSystem.set_set _ _
      refine .file rfl ?_ fun other hother => ?_
      · rw [hset, FileSystem.node?_set_self hnot]
        rfl
      · rw [hset, FileSystem.node?_set_of_ne hother]

variable [RealReading]

theorem World.Gives.openSource (h : w.Gives input bytes source) :
    ∃ opened, openSource w.files input = .ok opened ∧ ∀ files : FileSystem,
      (∀ place ∈ source, files.node? place = w.files.node? place) →
        opened.listens { w with files } = Listen.readAll bytes := by
  cases h with
  | standard h =>
    refine ⟨.standard, ?_, fun _ _ => rfl⟩
    cases input with
    | none => rfl
    | some p => simp [ListenQuery.openSource, h]
  | @file p place bytes h hresolve =>
    refine ⟨.file place, by simp [ListenQuery.openSource, h, hresolve], fun files hfiles => ?_⟩
    have hnode := (hfiles place rfl).trans (FileSystem.node?_of_resolve hresolve)
    simp [Source.listens, hnode]

end

theorem failure_deliver (w : World) (target : Option Place) (given : List UInt8)
    (events : List Event) (failure : Option Failure) :
    (deliver w target given events failure).failure = failure := by
  cases target <;> rfl

theorem finish_written (w : World) (target : Option Place) (t : Tally) :
    ∃ events, finish w target false t = deliver w target t.written events
      (t.failure.or (((w.sink target).flush? t.written).map .unwritten)) := by
  obtain ⟨kept, total, written, events, failure⟩ := t
  cases failure with
  | some e => exact ⟨_, rfl⟩
  | none =>
    cases h : (w.sink target).flush? written <;>
      simp only [finish, h, Bool.false_eq_true, if_false] <;> exact ⟨_, rfl⟩

theorem finish_counted (w : World) (target : Option Place) {t : Tally} (hwritten : t.written = []) :
    ∃ events, finish w target true t = deliver w target
      (if t.failure.isSome then [] else countLine t.kept t.total) events
      (t.failure.or (((w.sink target).fault? (countLine t.kept t.total)).map .unwritten)) := by
  obtain ⟨kept, total, written, events, failure⟩ := t
  obtain rfl := hwritten
  cases failure with
  | some e => exact ⟨_, rfl⟩
  | none =>
    cases h : (w.sink target).fault? (countLine kept total) <;>
      simp only [finish, h, if_true] <;> exact ⟨_, rfl⟩

section

variable [RealReading] {w : World} {input output : Option Path}

section

variable {opened : Source} {target : Option Place} {files : FileSystem}
  (hopen : openSource w.files input = .ok opened)
  (htarget : openTarget w.files output = .ok (target, files)) (f : Filter) (m : Modifier)

include hopen htarget

theorem runFilter_eq_deliver :
    let emptied := { w with files }
    let sink := emptied.sink target
    let stream := opened.listens emptied
    let lines := sink.writeLines [] ((f.kept stream).map m.apply)
    ∃ events, runFilter w f m input output false = deliver emptied target lines.1 events
      ((lines.2.or (stream.findSome? f.stop?)).or ((sink.flush? lines.1).map .unwritten)) := by
  intro emptied sink stream lines
  obtain ⟨hwritten, hfailure⟩ := runListens_written f m sink [] stream
  have hfinish := finish_written emptied target (runListens f m sink true [] stream)
  rw [hfailure, hwritten] at hfinish
  simpa only [runFilter, hopen, htarget, Bool.not_false] using hfinish

theorem runFilter_counted_eq_deliver :
    let emptied := { w with files }
    let stream := opened.listens emptied
    let stop := stream.findSome? f.stop?
    let line := countLine (f.kept stream).length (f.before stream).length
    ∃ events, runFilter w f m input output true = deliver emptied target
      (if stop.isSome then [] else line) events
      (stop.or (((emptied.sink target).fault? line).map .unwritten)) := by
  intro emptied stream stop line
  obtain ⟨hfailure, hkept, htotal, hwritten⟩ :=
    runListens_counted f m (emptied.sink target) [] stream
  have hfinish := finish_counted emptied target hwritten
  rw [hfailure, hkept, htotal] at hfinish
  simpa only [runFilter, hopen, htarget, Bool.not_true] using hfinish

end

omit [RealReading] in
theorem Modifier.map_apply_nil (ls : List Listen) : ls.map (Modifier.apply ⟨[]⟩) = ls :=
  List.map_id ls

theorem runFilter_printed {opened : Source} (hopen : openSource w.files input = .ok opened)
    (f : Filter) (m : Modifier) :
    let stream := opened.listens w
    let lines := w.output.writeLines [] ((f.kept stream).map m.apply)
    let o := runFilter w f m input none false
    o.failure = (lines.2.or (stream.findSome? f.stop?)).or
        ((w.output.flush? lines.1).map .unwritten) ∧
      o.files = w.files ∧ o.output = w.output.through lines.1 := by
  intro stream lines o
  have htarget : openTarget w.files none = .ok (none, w.files) := rfl
  obtain ⟨events, hrun⟩ := runFilter_eq_deliver hopen htarget f m
  rw [show o = _ from hrun]
  exact ⟨rfl, rfl, rfl⟩

theorem runFilter_printed_whole {opened : Source} (hopen : openSource w.files input = .ok opened)
    (hwhole : w.output.NeverFails) (f : Filter) (m : Modifier) :
    let stream := opened.listens w
    let o := runFilter w f m input none false
    o.failure = stream.findSome? f.stop? ∧ o.files = w.files ∧
      o.output = Listen.writeAll ((f.kept stream).map m.apply) := by
  intro stream o
  obtain ⟨hfailure, hfiles, houtput⟩ := runFilter_printed hopen f m
  rw [hwhole.writeLines] at hfailure houtput
  rw [hwhole.flush] at hfailure
  rw [hwhole.through] at houtput
  exact ⟨by simpa using hfailure, hfiles, houtput⟩

section

variable {bytes : List UInt8} {source target : Option Place} (hin : w.Gives input bytes source)
  (hout : w.Directs output target) (hother : ∀ place ∈ source, target ≠ some place) (f : Filter)
  (m : Modifier)

include hin hout hother

theorem exists_opened :
    ∃ opened files, openSource w.files input = .ok opened ∧
      openTarget w.files output = .ok (target, files) ∧
      opened.listens { w with files } = Listen.readAll bytes ∧
      { w with files }.sink target = w.sink target ∧
      ∀ given events failure, (deliver { w with files } target given events failure).Wrote w target
        ((w.sink target).through given) := by
  obtain ⟨files, htarget, hfiles, hsink, hwrote⟩ := hout.openTarget
  obtain ⟨opened, hopen, hlistens⟩ := hin.openSource
  exact ⟨opened, files, hopen, htarget,
    hlistens files fun place hplace => hfiles place (hother place hplace), hsink, hwrote⟩

theorem runFilter_delivered :
    let stream := Listen.readAll bytes
    let lines := (w.sink target).writeLines [] ((f.kept stream).map m.apply)
    let o := runFilter w f m input output false
    o.failure = (lines.2.or (stream.findSome? f.stop?)).or
        (((w.sink target).flush? lines.1).map .unwritten) ∧
      o.Wrote w target ((w.sink target).through lines.1) := by
  intro stream lines o
  obtain ⟨opened, files, hopen, htarget, hstream, hsink, hwrote⟩ := exists_opened hin hout hother
  obtain ⟨events, hrun⟩ := runFilter_eq_deliver hopen htarget f m
  rw [hstream, hsink] at hrun
  rw [show o = _ from hrun, failure_deliver]
  exact ⟨rfl, hwrote _ _ _⟩

theorem runFilter_wrote_isPrefix :
    let stream := Listen.readAll bytes
    let o := runFilter w f m input output false
    ∃ written, o.Wrote w target written ∧
      written <+: Listen.writeAll ((f.kept stream).map m.apply) :=
  ⟨_, (runFilter_delivered hin hout hother f m).2,
    ((w.sink target).through_isPrefix _).trans (Sink.writeLines_spec _ _ _).1⟩

end

end

end ListenQuery

import ListenQuery.Proofs.Command.Filter

/-!
# Writing to a file instead

The output file is created, and so emptied, before the first line of the input is read. A run that
succeeds leaves in it what would have been printed, unless it is the input file: then there is
nothing left to read, and the file is empty after the run.
-/

namespace ListenQuery

open Number

section

variable {fs : FileSystem} {input : Option Path} {opened : Source} {target : Option Place}

theorem openSource_eq_ok (h : openSource fs input = .ok opened) :
    isStandardInput input = true ∧ opened = .standard ∨
      isStandardInput input = false ∧ ∃ p ∈ input, ∃ place, fs.placeOf p = .ok place ∧
        ((∃ content, fs.node? place = some (.file content) ∧ opened = .file place) ∨
          fs.node? place = some .directory ∧ opened = .directory) := by
  unfold openSource at h
  split at h
  · exact .inl ⟨rfl, (Except.ok.inj h).symm⟩
  next p =>
  split at h
  · next hstandard => exact .inl ⟨hstandard, (Except.ok.inj h).symm⟩
  next hstandard =>
  refine .inr ⟨by simpa using hstandard, p, rfl, ?_⟩
  split at h
  · cases h
  · next place content hresolve =>
    obtain ⟨hplace, hnode⟩ := FileSystem.placeOf_of_resolve hresolve
    exact ⟨place, hplace, .inl ⟨content, hnode, (Except.ok.inj h).symm⟩⟩
  · next place hresolve =>
    obtain ⟨hplace, hnode⟩ := FileSystem.placeOf_of_resolve hresolve
    exact ⟨place, hplace, .inr ⟨hnode, (Except.ok.inj h).symm⟩⟩

theorem openTarget_eq_ok {output : Path} {files : FileSystem}
    (h : openTarget fs (some output) = .ok (target, files)) :
    ∃ place, fs.writablePlace output = .ok place ∧ target = some place ∧
      files = fs.set place (.file []) := by
  simp only [openTarget] at h
  split at h
  · cases h
  next place files' hcreate =>
  obtain ⟨rfl, rfl⟩ := Prod.mk.inj (Except.ok.inj h)
  exact ⟨place, FileSystem.writablePlace_of_create hcreate, rfl,
    (FileSystem.create_eq_ok hcreate).2⟩

end

section

variable [RealReading] {w : World} {input : Option Path} {output : Path}

section

variable {configPath : Option Path} {verbosity : Nat} {s : Selection}

theorem Invocation.run_filter {path : Path} {c : Config} {f : Filter} {m : Modifier}
    (hload : w.load configPath = .ok (path, c))
    (hbuilt : (s.build c w.files).result = .ok (f, m)) (target : Option Path) (count : Bool) :
    let o := Invocation.run ⟨configPath, verbosity, .filter input s target count⟩ w
    let run := runFilter w f m input target count
    o.files = run.files ∧ o.output = run.output ∧ o.failure = run.failure := by
  simp only [Invocation.run, hload, Command.run, withSelection, hbuilt, and_self]

theorem Invocation.exists_runFilter {target : Option Path} {count : Bool}
    (h : (Invocation.run ⟨configPath, verbosity, .filter input s target count⟩ w).failure = none) :
    ∃ f m, ∀ sink target count,
      let w := { w with output := sink }
      let o := Invocation.run ⟨configPath, verbosity, .filter input s target count⟩ w
      let run := runFilter w f m input target count
      o.files = run.files ∧ o.output = run.output ∧ o.failure = run.failure := by
  cases hload : w.load configPath with
  | error e => simp [Invocation.run, hload, World.fail] at h
  | ok loaded =>
    obtain ⟨path, c⟩ := loaded
    cases hbuilt : (s.build c w.files).result with
    | error e => simp [Invocation.run, hload, Command.run, withSelection, hbuilt, World.fail] at h
    | ok built =>
      refine ⟨built.1, built.2, fun sink target count => ?_⟩
      exact run_filter (w := { w with output := sink }) hload hbuilt target count

end

def World.ReadsFrom (w : World) (input : Option Path) (output : Path) : Prop :=
  isStandardInput input = false ∧ ∃ p ∈ input, w.files.placeOf p = w.files.placeOf output

theorem Source.listens_set {opened : Source} {place : Place}
    (hopen : openSource w.files input = .ok opened)
    (hwritable : w.files.writablePlace output = .ok place) :
    let emptied := { w with files := w.files.set place (.file []) }
    (w.ReadsFrom input output → opened.listens emptied = []) ∧
      (¬ w.ReadsFrom input output → opened.listens emptied = opened.listens w) := by
  intro emptied
  obtain ⟨hplace, -, hnot⟩ := FileSystem.writablePlace_eq_ok hwritable
  rcases openSource_eq_ok hopen with ⟨hstandard, rfl⟩ | ⟨hstandard, p, rfl, source, hsource, hnode⟩
  · exact ⟨fun h => by simp [h.1] at hstandard, fun _ => rfl⟩
  have hreads : w.ReadsFrom (some p) output ↔ source = place := by
    simp [World.ReadsFrom, hstandard, hsource, hplace]
  rw [hreads]
  rcases hnode with ⟨content, hnode, rfl⟩ | ⟨hnode, rfl⟩
  · refine ⟨fun heq => ?_, fun hne => ?_⟩
    · subst heq
      have hempty : emptied.files.node? source = some (.file []) := FileSystem.node?_set_self hnot
      simp only [Source.listens, hempty]
      rfl
    · have hother : emptied.files.node? source = w.files.node? source :=
        FileSystem.node?_set_of_ne hne
      simp only [Source.listens, hother]
  · refine ⟨fun heq => ?_, fun _ => rfl⟩
    exact absurd (heq ▸ hnode) hnot

theorem runFilter_filed {f : Filter} {m : Modifier} {opened : Source} {place : Place}
    (hopen : openSource w.files input = .ok opened)
    (hwritable : w.files.writablePlace output = .ok place) :
    let stream := opened.listens { w with files := w.files.set place (.file []) }
    let sink := w.files.sink place
    let lines := sink.writeLines [] ((f.kept stream).map m.apply)
    let o := runFilter w f m input (some output) false
    o.failure = (lines.2.or (stream.findSome? f.stop?)).or ((sink.flush? lines.1).map .unwritten) ∧
      o.files.readBytes output = .ok (sink.through lines.1) := by
  intro stream sink lines o
  have htarget : openTarget w.files (some output) =
      .ok (some place, w.files.set place (.file [])) := by
    simp [openTarget, FileSystem.create, hwritable]
  obtain ⟨events, hrun⟩ := runFilter_eq_deliver hopen htarget f m
  rw [show o = _ from hrun, failure_deliver, deliver]
  refine ⟨rfl, ?_⟩
  simp only [FileSystem.set_set, FileSystem.readBytes_set hwritable]
  rfl

theorem runFilter_filed_whole {f : Filter} {m : Modifier} {opened : Source} {place : Place}
    (hopen : openSource w.files input = .ok opened)
    (hwritable : w.files.writablePlace output = .ok place)
    (hwhole : (w.files.sink place).NeverFails) :
    let stream := opened.listens { w with files := w.files.set place (.file []) }
    let o := runFilter w f m input (some output) false
    o.failure = stream.findSome? f.stop? ∧
      o.files.readBytes output = .ok (Listen.writeAll ((f.kept stream).map m.apply)) := by
  intro stream o
  obtain ⟨hfailure, hread⟩ := runFilter_filed (f := f) (m := m) hopen hwritable
  rw [hwhole.writeLines, hwhole.flush] at hfailure
  rw [hwhole.writeLines, hwhole.through] at hread
  exact ⟨by simpa using hfailure, hread⟩

/-- A run that succeeds leaves in the output file what would have been printed if the input is not
read from that file or if nothing would have been printed, and only then. A file that is its own
output is empty after the run. -/
theorem run_filter_output (w : World) (configPath : Option Path) (verbosity : Nat)
    (input : Option Path) (s : Selection) (output : Path) :
    let command target : Invocation := ⟨configPath, verbosity, .filter input s target false⟩
    let filed := (command (some output)).run w
    let printed := (command none).run { w with output := .whole }
    filed.failure = none →
      (filed.files.readBytes output = .ok printed.output ↔
        ¬ w.ReadsFrom input output ∨ printed.output = []) ∧
      (¬ w.ReadsFrom input output → printed.failure = none) ∧
      (w.ReadsFrom input output → filed.files.readBytes output = .ok []) := by
  intro command filed printed h
  obtain ⟨f, m, hrun⟩ := Invocation.exists_runFilter h
  obtain ⟨hfiles, -, hfiled⟩ := hrun w.output (some output) false
  obtain ⟨-, hprinted, hstopped⟩ := hrun .whole none false
  rw [show filed.files = _ from hfiles, show printed.output = _ from hprinted,
    show printed.failure = _ from hstopped]
  have hsuccess := hfiled.symm.trans h
  cases hopen : openSource w.files input with
  | error e => simp [runFilter, hopen, World.fail] at hsuccess
  | ok opened =>
    cases htarget : openTarget w.files (some output) with
    | error e => simp [runFilter, hopen, htarget, World.fail] at hsuccess
    | ok target =>
      obtain ⟨place, hwritable, -, -⟩ := openTarget_eq_ok htarget
      obtain ⟨hleft, hsame⟩ := Source.listens_set hopen hwritable
      obtain ⟨hfailure, hread⟩ := runFilter_filed (f := f) (m := m) hopen hwritable
      obtain ⟨hwrites, hstop, hflush⟩ :=
        Sink.writeLines_eq_none_iff.1 (hfailure.symm.trans hsuccess)
      rw [Sink.through_writeLines hwrites hflush] at hread
      obtain ⟨hfailure', -, houtput⟩ :=
        runFilter_printed_whole (w := { w with output := .whole }) hopen Sink.neverFails_whole f m
      by_cases hreads : w.ReadsFrom input output
      · have hempty :
            (runFilter w f m input (some output) false).files.readBytes output = .ok [] := by
          rw [hread, hleft hreads]
          rfl
        refine ⟨?_, fun hnot => absurd hreads hnot, fun _ => hempty⟩
        rw [hempty, Except.ok.injEq, eq_comm]
        exact ⟨.inr, fun h => h.resolve_left (not_not_intro hreads)⟩
      · rw [hsame hreads] at hstop hread
        refine ⟨?_, fun _ => hfailure'.trans hstop, fun h => absurd h hreads⟩
        rw [hread, houtput]
        exact ⟨fun _ => .inl hreads, fun _ => rfl⟩

end

def foundLine : String :=
  "\x7b\"track_metadata\":\x7b\"artist_name\":\"A\",\"track_name\":\"T\"\x7d,\"listened_at\":5\x7d"

def foundFile : World :=
  .ofFiles [(["in.jsonl"], .file (utf8Of foundLine.toList ++ [10]))] []

def filterFound (target : Option Path) : Invocation :=
  ⟨none, 0, .filter (some "in.jsonl") ⟨none, [], none, none, none, none, []⟩ target false⟩

theorem run_filterFound (target : Option Path) :
    let o := (filterFound target).run foundFile
    let run := runFilter foundFile ⟨.default, []⟩ ⟨[]⟩ (some "in.jsonl") target false
    o.files = run.files ∧ o.output = run.output ∧ o.failure = run.failure := by
  have hload : foundFile.load none = .ok ("/home/.listen-filter/config.json", .default) := rfl
  exact Invocation.run_filter hload rfl target false

theorem readAll_foundLine :
    Listen.readAll (utf8Of foundLine.toList ++ [10]) = [.ok (Listen.ofNames 5 "A" "T")] := by
  have hread : Listen.read foundLine = .ok (Listen.ofNames 5 "A" "T") := rfl
  exact Listen.readAll_text (by decide) (by decide) hread

theorem kept_found :
    Filter.stop? ⟨.default, []⟩ (.ok (Listen.ofNames 5 "A" "T")) = none ∧
      Filter.kept ⟨.default, []⟩ [.ok (Listen.ofNames 5 "A" "T")] = [Listen.ofNames 5 "A" "T"] := by
  have hcheck : Filter.check ⟨.default, []⟩ (Listen.ofNames 5 "A" "T") = .ok ⟨true, []⟩ := rfl
  have hstop := Filter.stop?_of_check hcheck
  exact ⟨hstop, Filter.kept_cons_of_some hstop (Filter.kept?_of_check hcheck)⟩

theorem printed_filterFound :
    let o := (filterFound none).run foundFile
    o.failure = none ∧ o.output = (Listen.ofNames 5 "A" "T").lineBytes := by
  obtain ⟨-, houtput, hfailure⟩ := run_filterFound none
  have hopen : openSource foundFile.files (some "in.jsonl") = .ok (.file ["in.jsonl"]) := rfl
  have hstream : (Source.file ["in.jsonl"]).listens foundFile = [.ok (Listen.ofNames 5 "A" "T")] :=
    readAll_foundLine
  obtain ⟨hstop, -, hwritten⟩ :=
    runFilter_printed_whole hopen Sink.neverFails_whole ⟨.default, []⟩ ⟨[]⟩
  intro o
  rw [show o.failure = _ from hfailure, show o.output = _ from houtput, hstop, hwritten, hstream,
    Modifier.map_apply_nil, List.findSome?_singleton, kept_found.2, Listen.writeAll,
    List.flatMap_singleton]
  exact ⟨kept_found.1, rfl⟩

theorem run_filter_output_other :
    let filed := (filterFound (some "out.jsonl")).run foundFile
    let printed := (filterFound none).run foundFile
    filed.failure = none ∧ ¬ foundFile.ReadsFrom (some "in.jsonl") "out.jsonl" ∧
      filed.files.readBytes "out.jsonl" = .ok printed.output := by
  have hopen : openSource foundFile.files (some "in.jsonl") = .ok (.file ["in.jsonl"]) := rfl
  have hwritable : foundFile.files.writablePlace "out.jsonl" = .ok ["out.jsonl"] := rfl
  have hother : ¬ foundFile.ReadsFrom (some "in.jsonl") "out.jsonl" := by
    rintro ⟨-, p, ⟨⟩, hplace⟩
    have hdiffer : (["in.jsonl"] : Place) = ["out.jsonl"] := Except.ok.inj hplace
    simp at hdiffer
  have hstream : (Source.file ["in.jsonl"]).listens foundFile = [.ok (Listen.ofNames 5 "A" "T")] :=
    readAll_foundLine
  obtain ⟨-, -, hfailure⟩ := run_filterFound (some "out.jsonl")
  obtain ⟨hstop, -⟩ := runFilter_filed_whole (f := ⟨.default, []⟩) (m := ⟨[]⟩) hopen hwritable
    Sink.neverFails_whole
  rw [(Source.listens_set hopen hwritable).2 hother, hstream] at hstop
  have hsuccess : ((filterFound (some "out.jsonl")).run foundFile).failure = none := by
    rw [show ((filterFound (some "out.jsonl")).run foundFile).failure = _ from hfailure, hstop,
      List.findSome?_singleton, kept_found.1]
  obtain ⟨houtput, -⟩ := run_filter_output foundFile none 0 (some "in.jsonl")
    ⟨none, [], none, none, none, none, []⟩ "out.jsonl" hsuccess
  exact ⟨hsuccess, hother, houtput.2 (.inl hother)⟩

/-- Filtering a file into itself succeeds and leaves it empty, whatever it would have printed. -/
theorem run_filter_into_itself :
    let filed := (filterFound (some "in.jsonl")).run foundFile
    let printed := (filterFound none).run foundFile
    filed.failure = none ∧ printed.failure = none ∧
      printed.output = (Listen.ofNames 5 "A" "T").lineBytes ∧
      filed.files.readBytes "in.jsonl" = .ok [] ∧
      filed.files.readBytes "in.jsonl" ≠ .ok printed.output := by
  have hopen : openSource foundFile.files (some "in.jsonl") = .ok (.file ["in.jsonl"]) := rfl
  have hwritable : foundFile.files.writablePlace "in.jsonl" = .ok ["in.jsonl"] := rfl
  have hsame : foundFile.ReadsFrom (some "in.jsonl") "in.jsonl" := ⟨rfl, "in.jsonl", rfl, rfl⟩
  obtain ⟨hfiles, -, hfailure⟩ := run_filterFound (some "in.jsonl")
  obtain ⟨hprinted, houtput⟩ := printed_filterFound
  obtain ⟨hstop, hread⟩ := runFilter_filed_whole (f := ⟨.default, []⟩) (m := ⟨[]⟩) hopen hwritable
    Sink.neverFails_whole
  rw [(Source.listens_set hopen hwritable).1 hsame] at hstop hread
  have hempty : ((filterFound (some "in.jsonl")).run foundFile).files.readBytes "in.jsonl" =
      .ok [] := by
    rw [show ((filterFound (some "in.jsonl")).run foundFile).files = _ from hfiles, hread]
    rfl
  refine ⟨hfailure.trans hstop, hprinted, houtput, hempty, ?_⟩
  intro hsame
  have hnil := Except.ok.inj (hempty.symm.trans hsame)
  rw [houtput, Listen.lineBytes_eq] at hnil
  simp at hnil

end ListenQuery

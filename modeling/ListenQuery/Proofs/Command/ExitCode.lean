import ListenQuery.Proofs.Command.Faults

/-!
# Exit codes

A command completes exactly if it meets no fault, and its exit code tells of what class the fault is
that it has met.
-/

namespace ListenQuery

open Number

theorem FaultClass.exitCode_injective : Function.Injective FaultClass.exitCode := by
  intro k k' h
  cases k <;> cases k' <;> first | rfl | exact absurd h (by decide)

theorem FaultClass.exitCode_ne_zero (k : FaultClass) : k.exitCode ≠ 0 := by
  cases k <;> decide

section

variable [RealReading] {i : Invocation} {w : World} {path : Path} {c : Config} {s : Selection}
  {input output : Option Path} {count : Bool} {f : Filter} {m : Modifier} {sink : Sink}
  {failure : Failure} {passed rest stream : List (Except LineError Listen)}

/-! ## Runs of the filter -/

theorem failure_runFilter_written (hreads : w.Reads input output sink stream) (f : Filter)
    (m : Modifier) :
    let lines := sink.writeLines [] ((f.kept stream).map m.apply)
    (runFilter w f m input output false).failure =
      (lines.2.or (stream.findSome? f.stop?)).or ((sink.flush? lines.1).map .unwritten) := by
  obtain ⟨hopen, htarget⟩ := hreads
  obtain ⟨events, hrun⟩ := runFilter_eq_deliver hopen htarget f m
  rw [hrun, failure_deliver]

theorem failure_runFilter_counted (hreads : w.Reads input output sink stream) (f : Filter)
    (m : Modifier) :
    (runFilter w f m input output true).failure = (stream.findSome? f.stop?).or
      ((sink.fault? (countLine (f.kept stream).length (f.before stream).length)).map
        .unwritten) := by
  obtain ⟨hopen, htarget⟩ := hreads
  obtain ⟨events, hrun⟩ := runFilter_counted_eq_deliver hopen htarget f m
  rw [hrun, failure_deliver]

namespace Invocation

theorem run_of_loads (hload : w.load i.configPath = .ok (path, c)) :
    i.run w = i.command.run w c path := by simp only [run, hload]

theorem failure_of_build (hload : w.load i.configPath = .ok (path, c))
    (hs : i.command.selection? = some s) (h : (s.build c w.files).result = .error failure) :
    (i.run w).failure = some failure := by
  rw [run_of_loads hload]
  cases hcommand : i.command with
  | filter input s' output count =>
    obtain rfl : s' = s := by simpa [hcommand, Command.selection?] using hs
    simp only [Command.run, withSelection, h, World.fail]
  | explain s' json =>
    obtain rfl : s' = s := by simpa [hcommand, Command.selection?] using hs
    simp only [Command.run, withSelection, h, World.fail]
  | config command => simp [hcommand, Command.selection?] at hs
  | completions shell => simp [hcommand, Command.selection?] at hs

theorem Filters.failure_eq (h : i.Filters w input output count f m) :
    (i.run w).failure = (runFilter w f m input output count).failure := by
  obtain ⟨hcommand, hload, hbuilt⟩ := h
  rw [run_of_loads hload, hcommand]
  simp only [Command.run, withSelection, hbuilt]

theorem run_config (hload : w.load i.configPath = .ok (path, c)) {command : ConfigCommand}
    (hcommand : i.command = .config command) : i.run w = runConfig w c path command := by
  rw [run_of_loads hload, hcommand, Command.run]

theorem run_verify (hload : w.load i.configPath = .ok (path, c))
    (hcommand : i.command = .config .verify) (hfile : w.files.pathExists path = true) :
    (i.run w).failure = (w.print (verdictTexts path (c.problems w.files))).failure.or
      (if (c.problems w.files).isEmpty then none
        else some (.invalidConfig (c.problems w.files).length)) := by
  have hverify := Config.verify_of_load (World.load_eq_ok_iff.1 hload).2 hfile
  rw [run_config hload hcommand]
  simp only [runConfig, hverify]
  split_ifs <;> simp

theorem exitCode_of_failure (h : (i.run w).failure = some failure) :
    (i.run w).exitCode = failure.exitCode := by
  rw [Outcome.exitCode, h]

/-! ### What each fault comes to -/

theorem exitCode_of_load_error {e : ConfigError} (h : w.load i.configPath = .error e) :
    (i.run w).exitCode = 1 := by
  have hfailure : (i.run w).failure = some (.config e) := by simp only [run, h, World.fail]
  rw [exitCode_of_failure hfailure]
  simp [Failure.exitCode, Failure.expression?, World.expression?_of_load h]

theorem exitCode_of_unknownPreset (hload : w.load i.configPath = .ok (path, c))
    (hs : i.command.selection? = some s) {name : String} (hname : name ∈ s.presets)
    (h : c.presets.get? name = none) : (i.run w).exitCode = 1 := by
  have hunknown : ¬ (∀ name ∈ s.presets, (c.presets.get? name).isSome) := by
    intro hpresets
    have hsome := hpresets name hname
    simp [h] at hsome
  cases hbuilt : (s.build c w.files).result with
  | ok built => exact absurd (Selection.valid_of_build hbuilt).presets hunknown
  | error failure =>
    rw [exitCode_of_failure (failure_of_build hload hs hbuilt)]
    obtain ⟨_, -, -, rfl⟩ | ⟨hpresets, -⟩ := Selection.cases_of_build_error hbuilt
    · rfl
    · exact absurd hpresets hunknown

theorem exitCode_of_fault (hload : w.load i.configPath = .ok (path, c))
    (hs : i.command.selection? = some s)
    (hpresets : ∀ name ∈ s.presets, (c.presets.get? name).isSome) (h : s.Fault c w.files) :
    (i.run w).exitCode = FaultClass.expression.exitCode := by
  cases hbuilt : (s.build c w.files).result with
  | ok built => exact absurd h (Selection.valid_iff.1 (Selection.valid_of_build hbuilt)).2
  | error failure =>
    rw [exitCode_of_failure (failure_of_build hload hs hbuilt)]
    obtain ⟨name, hname, hnone, -⟩ | ⟨-, -, hexit⟩ := Selection.cases_of_build_error hbuilt
    · have hsome := hpresets name hname
      simp [hnone] at hsome
    · exact hexit

namespace Filters

theorem exitCode_of_openSource (hfilters : i.Filters w input output count f m)
    (h : openSource w.files input = .error failure) : (i.run w).exitCode = 1 := by
  have hfailure := hfilters.failure_eq
  simp only [runFilter, h, World.fail] at hfailure
  obtain ⟨p, -, -, e, -, rfl⟩ := openSource_eq_error h
  exact exitCode_of_failure hfailure

theorem exitCode_of_openTarget (hfilters : i.Filters w input output count f m)
    (h : openTarget w.files output = .error failure) : (i.run w).exitCode = 1 := by
  cases hopen : openSource w.files input with
  | error failure' => exact hfilters.exitCode_of_openSource hopen
  | ok opened =>
    have hfailure := hfilters.failure_eq
    simp only [runFilter, hopen, h, World.fail] at hfailure
    obtain ⟨p, -, e, -, rfl⟩ := openTarget_eq_error h
    exact exitCode_of_failure hfailure

theorem exitCode_of_stop (hfilters : i.Filters w input output count f m)
    {x : Except LineError Listen} (hreads : w.Reads input output sink (passed ++ x :: rest))
    (hpassed : f.Passes m sink count passed) (hx : f.stop? x = some failure) :
    (i.run w).exitCode = failure.exitCode := by
  have hstop := hpassed.findSome?_of_stop rest hx
  have hfailure := hfilters.failure_eq
  cases count with
  | true =>
    rw [failure_runFilter_counted hreads, hstop] at hfailure
    exact exitCode_of_failure hfailure
  | false =>
    have hkept : f.kept (passed ++ x :: rest) = f.kept passed := by
      rw [Filter.kept_append hpassed.checkable, Filter.kept_cons_of_stop hx, List.append_nil]
    have hlines := (sink.writeLines_spec [] _).2.1 (hpassed.written rfl)
    rw [failure_runFilter_written hreads, hkept, hlines, hstop] at hfailure
    exact exitCode_of_failure hfailure

theorem exitCode_of_lineFault (hfilters : i.Filters w input output false f m) {l : Listen}
    {warnings : List Warning} (hreads : w.Reads input output sink (passed ++ .ok l :: rest))
    (hpassed : f.Passes m sink false passed) (hkept : f.check l = .ok ⟨true, warnings⟩)
    (h : sink.lineFault? (Listen.writeAll ((f.kept passed).map m.apply)) (m.apply l) ≠ none) :
    (i.run w).exitCode = 1 := by
  have hlines : (f.kept (passed ++ .ok l :: rest)).map m.apply =
      (f.kept passed).map m.apply ++ m.apply l :: (f.kept rest).map m.apply := by
    rw [Filter.kept_append hpassed.checkable, Filter.kept_cons_of_some (Filter.stop?_of_check hkept)
      (Filter.kept?_of_check hkept), List.map_append, List.map_cons]
  have hnot : ¬ sink.Writes [] ((f.kept (passed ++ .ok l :: rest)).map m.apply) :=
    fun hwrites => h (hwrites _ _ _ hlines)
  obtain ⟨failure, hfault, hexit⟩ := (sink.writeLines_spec [] _).2.2 hnot
  have hfailure := hfilters.failure_eq
  rw [failure_runFilter_written hreads, hfault] at hfailure
  rw [exitCode_of_failure hfailure, hexit]

theorem exitCode_of_flush (hfilters : i.Filters w input output false f m)
    (hreads : w.Reads input output sink stream) (hpassed : f.Passes m sink false stream)
    (h : sink.flush? (Listen.writeAll ((f.kept stream).map m.apply)) ≠ none) :
    (i.run w).exitCode = 1 := by
  obtain ⟨e, he⟩ := Option.ne_none_iff_exists'.1 h
  have hfailure := hfilters.failure_eq
  rw [failure_runFilter_written hreads, (sink.writeLines_spec [] _).2.1 (hpassed.written rfl),
    Filter.findSome?_of_checkable hpassed.checkable, he] at hfailure
  exact exitCode_of_failure hfailure

theorem exitCode_of_count (hfilters : i.Filters w input output true f m)
    (hreads : w.Reads input output sink stream) (hpassed : f.Passes m sink true stream)
    (h : sink.fault? (countLine (f.kept stream).length stream.length) ≠ none) :
    (i.run w).exitCode = 1 := by
  obtain ⟨e, he⟩ := Option.ne_none_iff_exists'.1 h
  have hstop := Filter.findSome?_of_checkable hpassed.checkable
  have hfailure := hfilters.failure_eq
  rw [failure_runFilter_counted hreads, hstop, Filter.before_eq_self hstop, he] at hfailure
  exact exitCode_of_failure hfailure

end Filters

section

variable {key value : String} {e : ConfigError}

theorem exitCode_of_set_error (hload : w.load i.configPath = .ok (path, c))
    (hcommand : i.command = .config (.set key value)) (hset : (c.set key value).result = .error e) :
    (i.run w).exitCode = (Failure.config e).exitCode := by
  refine exitCode_of_failure ?_
  rw [run_config hload hcommand]
  simp only [runConfig, hset, World.fail]

theorem exitCode_of_unsaved (hload : w.load i.configPath = .ok (path, c))
    (hcommand : i.command = .config (.set key value)) (hset : (c.set key value).result = .ok ())
    (h : ((c.set key value).now.save w.files path).result = .error e) : (i.run w).exitCode = 1 := by
  have hfailure : (i.run w).failure = some (.config e) := by
    rw [run_config hload hcommand]
    simp only [runConfig, hset, h, World.fail]
  rw [exitCode_of_failure hfailure]
  obtain ⟨cause, rfl⟩ | ⟨cause, rfl⟩ := Config.failure_of_save h <;> rfl

end

theorem exitCode_of_missing (hload : w.load i.configPath = .ok (path, c))
    (hcommand : i.command = .config .verify) (h : w.files.pathExists path = false) :
    (i.run w).exitCode = 1 := by
  have hverify : Config.verify w.files path = .error (.missing path) := by
    simp [Config.verify, h]
  have hfailure : (i.run w).failure = some (.config (.missing path)) := by
    rw [run_config hload hcommand]
    simp only [runConfig, hverify, World.fail]
  exact exitCode_of_failure hfailure

theorem exitCode_of_problem (hload : w.load i.configPath = .ok (path, c))
    (hcommand : i.command = .config .verify) (hfile : w.files.pathExists path = true)
    (hprinted : w.output.Prints [] (verdictTexts path (c.problems w.files))) {p : Problem}
    (h : p.Of c w.files) : (i.run w).exitCode = 4 := by
  have hfailure := run_verify hload hcommand hfile
  rw [World.print_of_prints hprinted] at hfailure
  cases hproblems : c.problems w.files with
  | nil => exact absurd h ((Config.problems_eq_nil_iff _ _).1 hproblems p)
  | cons first rest =>
    rw [hproblems] at hfailure
    exact exitCode_of_failure hfailure

theorem Prints.failure_eq {texts : List String} (h : i.Prints w texts) :
    (i.run w).failure = (w.print texts).failure ∨
      ∃ n, (i.run w).failure = (w.print texts).failure.or (some (.invalidConfig n)) := by
  cases h with
  | explanation hcommand hload hbuilt =>
    rw [run_of_loads hload, hcommand]
    simp only [Command.run, withSelection, hbuilt, true_or]
  | configuration hcommand hload =>
    rw [run_config hload hcommand]
    exact .inl rfl
  | path hcommand hload =>
    rw [run_config hload hcommand]
    exact .inl rfl
  | setting hcommand hload hset hsaved =>
    rw [run_config hload hcommand]
    simp only [runConfig, hset, hsaved, World.print, true_or]
  | verdict hcommand hload hfile =>
    have hfailure := run_verify hload hcommand hfile
    rw [hfailure]
    split_ifs
    · exact .inl Option.or_none
    · exact .inr ⟨_, rfl⟩
  | script hcommand hload =>
    rw [run_of_loads hload, hcommand]
    exact .inl rfl

theorem Prints.exitCode {texts : List String} (h : i.Prints w texts)
    (hprints : ¬ w.output.Prints [] texts) : (i.run w).exitCode = 101 := by
  obtain ⟨e, he⟩ := World.failure_print_of_not_prints hprints
  have hfailure : (i.run w).failure = some (.unprinted e) := by
    obtain hsame | ⟨n, hsame⟩ := h.failure_eq
    · rw [hsame, he]
    · rw [hsame, he, Option.some_or]
  exact exitCode_of_failure hfailure

theorem exitCode_of_fails {k : FaultClass} (h : i.Fails w k) :
    (i.run w).exitCode = k.exitCode := by
  cases h with
  | config h => exact exitCode_of_load_error h
  | unknownPreset hload hs hname h => exact exitCode_of_unknownPreset hload hs hname h
  | selection hload hs hpresets h => exact exitCode_of_fault hload hs hpresets h
  | @input input output count f m p e hfilters hp hfile h =>
    obtain rfl := hp
    have hopen : openSource w.files (some p) = .error (.unopenable p e) := by
      simp [openSource, hfile, h]
    exact hfilters.exitCode_of_openSource hopen
  | @output input output count f m p e hfilters hp h =>
    obtain rfl := hp
    have htarget : openTarget w.files (some p) = .error (.uncreatable p e) := by
      simp [openTarget, h]
    exact hfilters.exitCode_of_openTarget htarget
  | line hfilters hreads hpassed => exact hfilters.exitCode_of_stop hreads hpassed rfl
  | comparison hfilters hreads hpassed h =>
    obtain ⟨e, hl⟩ := Filter.stop?_of_comparesObject h
    exact hfilters.exitCode_of_stop hreads hpassed hl
  | write hfilters hreads hpassed hkept h =>
    exact hfilters.exitCode_of_lineFault hreads hpassed hkept h
  | flush hfilters hreads hpassed h => exact hfilters.exitCode_of_flush hreads hpassed h
  | count hfilters hreads hpassed h => exact hfilters.exitCode_of_count hreads hpassed h
  | unknownKey hload hcommand h =>
    exact exitCode_of_set_error hload hcommand (congrArg Changed.result (Config.set_of_not_read h))
  | @invalidPreset path c key value name e hload hcommand hkey hvalue h =>
    have hset : (c.set key value).result = .error (.invalidPreset name e) := by
      simp [Config.set_of_read hkey, Config.setKey, Config.setPreset, hvalue, h]
    exact exitCode_of_set_error hload hcommand hset
  | unsaved hload hcommand hset h => exact exitCode_of_unsaved hload hcommand hset h
  | missing hload hcommand h => exact exitCode_of_missing hload hcommand h
  | problem hload hcommand hfile hprinted h =>
    exact exitCode_of_problem hload hcommand hfile hprinted h
  | unprinted hprints h => exact hprints.exitCode h

/-! ### What else can happen -/

theorem exists_build_or_fails (hload : w.load i.configPath = .ok (path, c))
    (hs : i.command.selection? = some s) :
    (∃ f m, (s.build c w.files).result = .ok (f, m)) ∨ ∃ k, i.Fails w k := by
  cases hbuilt : (s.build c w.files).result with
  | ok built => exact .inl ⟨built.1, built.2, rfl⟩
  | error failure =>
    obtain ⟨name, hname, hnone, -⟩ | ⟨hpresets, hfault, -⟩ :=
      Selection.cases_of_build_error hbuilt
    · exact .inr ⟨_, .unknownPreset hload hs hname hnone⟩
    · exact .inr ⟨_, .selection hload hs hpresets hfault⟩

theorem Filters.completes_or_fails_of_passes (h : i.Filters w input output count f m)
    (hreads : w.Reads input output sink stream) (hpassed : f.Passes m sink count stream) :
    (i.run w).failure = none ∨ ∃ k, i.Fails w k := by
  have hstop := Filter.findSome?_of_checkable hpassed.checkable
  have hfailure := h.failure_eq
  cases count with
  | true =>
    by_cases hfault : sink.fault? (countLine (f.kept stream).length stream.length) = none
    · rw [failure_runFilter_counted hreads, hstop, Filter.before_eq_self hstop, hfault] at hfailure
      exact .inl hfailure
    · exact .inr ⟨_, .count h hreads hpassed hfault⟩
  | false =>
    by_cases hflush : sink.flush? (Listen.writeAll ((f.kept stream).map m.apply)) = none
    · rw [failure_runFilter_written hreads, hstop,
        (sink.writeLines_spec [] _).2.1 (hpassed.written rfl), hflush] at hfailure
      exact .inl hfailure
    · exact .inr ⟨_, .flush h hreads hpassed hflush⟩

theorem Filters.completes_or_fails (h : i.Filters w input output count f m) :
    (i.run w).failure = none ∨ ∃ k, i.Fails w k := by
  cases hopen : openSource w.files input with
  | error failure =>
    obtain ⟨p, hp, hfile, e, hresolve, -⟩ := openSource_eq_error hopen
    exact .inr ⟨_, .input h hp hfile hresolve⟩
  | ok opened =>
    cases htarget : openTarget w.files output with
    | error failure =>
      obtain ⟨p, hp, e, hcreate, -⟩ := openTarget_eq_error htarget
      exact .inr ⟨_, .output h hp hcreate⟩
    | ok target =>
      have hreads := World.Reads.intro hopen htarget
      obtain hpassed | ⟨passed, x, rest, hsplit, hpassed, hstops⟩ := f.passes_or_stops m _ count _
      · exact h.completes_or_fails_of_passes hreads hpassed
      rw [hsplit] at hreads
      obtain hx | ⟨rfl, l, warnings, rfl, hkept, hfault⟩ := hstops
      · obtain ⟨failure, hfailure⟩ :=
          Option.ne_none_iff_exists'.1 (mt Filter.stop?_eq_none_iff.1 hx)
        obtain ⟨e, rfl⟩ | ⟨l, rfl, hobject⟩ := Filter.cases_of_stop? hfailure
        · exact .inr ⟨_, .line h hreads hpassed⟩
        · exact .inr ⟨_, .comparison h hreads hpassed hobject⟩
      · exact .inr ⟨_, .write h hreads hpassed hkept hfault⟩

theorem Prints.completes_or_fails {texts : List String} (h : i.Prints w texts)
    (hfailure : (i.run w).failure = (w.print texts).failure) :
    (i.run w).failure = none ∨ ∃ k, i.Fails w k := by
  by_cases hprints : w.output.Prints [] texts
  · rw [hfailure, World.print_of_prints hprints]
    exact .inl rfl
  · exact .inr ⟨_, .unprinted h hprints⟩

theorem config_completes_or_fails {command : ConfigCommand}
    (hload : w.load i.configPath = .ok (path, c)) (hcommand : i.command = .config command) :
    (i.run w).failure = none ∨ ∃ k, i.Fails w k := by
  cases command with
  | showAll =>
    refine (Prints.configuration hcommand hload).completes_or_fails ?_
    rw [run_config hload hcommand, runConfig]
  | path =>
    refine (Prints.path hcommand hload).completes_or_fails ?_
    rw [run_config hload hcommand, runConfig]
  | set key value =>
    cases hset : (c.set key value).result with
    | error e =>
      obtain ⟨hkey, -⟩ | ⟨name, cause, hkey, hvalue, hread, -⟩ := Config.set_eq_error hset
      · exact .inr ⟨_, .unknownKey hload hcommand hkey⟩
      · exact .inr ⟨_, .invalidPreset hload hcommand hkey hvalue hread⟩
    | ok _ =>
      cases hsaved : ((c.set key value).now.save w.files path).result with
      | error e => exact .inr ⟨_, .unsaved hload hcommand hset hsaved⟩
      | ok _ =>
        refine (Prints.setting hcommand hload hset hsaved).completes_or_fails ?_
        rw [run_config hload hcommand]
        simp only [runConfig, hset, hsaved, World.print]
  | verify =>
    cases hfile : w.files.pathExists path with
    | false => exact .inr ⟨_, .missing hload hcommand hfile⟩
    | true =>
      have hprints := Prints.verdict hcommand hload hfile
      by_cases hprinted : w.output.Prints [] (verdictTexts path (c.problems w.files))
      · by_cases hproblem : ∃ p, Problem.Of c w.files p
        · obtain ⟨p, hp⟩ := hproblem
          exact .inr ⟨_, .problem hload hcommand hfile hprinted hp⟩
        · have hnil := (Config.problems_eq_nil_iff w.files c).2 fun p hp => hproblem ⟨p, hp⟩
          refine hprints.completes_or_fails ?_
          rw [run_verify hload hcommand hfile, hnil]
          exact Option.or_none
      · exact .inr ⟨_, .unprinted hprints hprinted⟩

theorem completes_or_fails (i : Invocation) (w : World) :
    (i.run w).failure = none ∨ ∃ k, i.Fails w k := by
  cases hload : w.load i.configPath with
  | error e => exact .inr ⟨_, .config hload⟩
  | ok loaded =>
    obtain ⟨path, c⟩ := loaded
    cases hcommand : i.command with
    | filter input s output count =>
      obtain ⟨f, m, hbuilt⟩ | hfails :=
        exists_build_or_fails (s := s) hload (by rw [hcommand]; rfl)
      · exact Filters.completes_or_fails (.intro hcommand hload hbuilt)
      · exact .inr hfails
    | explain s json =>
      obtain ⟨f, m, hbuilt⟩ | hfails :=
        exists_build_or_fails (s := s) hload (by rw [hcommand]; rfl)
      · refine (Prints.explanation hcommand hload hbuilt).completes_or_fails ?_
        rw [run_of_loads hload, hcommand]
        simp only [Command.run, withSelection, hbuilt]
      · exact .inr hfails
    | config command => exact config_completes_or_fails hload hcommand
    | completions shell =>
      refine (Prints.script hcommand hload).completes_or_fails ?_
      rw [run_of_loads hload, hcommand, Command.run]

end Invocation

/-- A command completes exactly if it meets no fault, and then its exit code is 0. Otherwise the
code is that of the class of the fault that it has met: 3 for an expression, 4 for a configuration
with problems, 101 for a text that cannot be printed and 1 for everything else. -/
theorem run_exitCode (i : Invocation) (w : World) :
    let o := i.run w
    (o.exitCode = 0 ↔ o.failure = none) ∧ (o.failure = none ↔ ∀ k, ¬ i.Fails w k) ∧
      ∀ k, o.exitCode = k.exitCode ↔ i.Fails w k := by
  intro o
  have hzero : o.exitCode = 0 ↔ o.failure = none := by
    cases hfailure : o.failure with
    | none => simp [Outcome.exitCode, hfailure]
    | some failure => simp [Outcome.exitCode, hfailure, failure.exitCode_ne_zero]
  have hfails {k : FaultClass} (h : i.Fails w k) : o.exitCode = k.exitCode :=
    Invocation.exitCode_of_fails h
  refine ⟨hzero, ?_, fun k => ⟨fun hexit => ?_, hfails⟩⟩
  · constructor
    · intro hnone k h
      exact k.exitCode_ne_zero ((hfails h).symm.trans (hzero.2 hnone))
    · intro hnone
      refine (i.completes_or_fails w).resolve_right ?_
      rintro ⟨k, h⟩
      exact hnone k h
  · obtain hnone | ⟨k', h⟩ := i.completes_or_fails w
    · exact absurd (hexit.symm.trans (hzero.2 hnone)) k.exitCode_ne_zero
    · obtain rfl := FaultClass.exitCode_injective (hexit.symm.trans (hfails h))
      exact h

example : (Invocation.run ⟨none, 0, .explain ⟨none, ["x"], some "y", none, none, none, []⟩ false⟩
    (.ofFiles [] [])).exitCode = 1 := rfl

end

/-- An explanation that there is no space for ends the process with a code of its own, while a
listen that there is no space for makes a filter fail like any other fault. -/
theorem run_exitCode_noSpace :
    let w := { foundFile with output := .limited 0 8192 .noSpace }
    let explained :=
      Invocation.run ⟨none, 0, .explain ⟨none, [], none, none, none, none, []⟩ false⟩ w
    let filtered := (filterFound none).run w
    explained.failure = some (.unprinted .noSpace) ∧ explained.exitCode = 101 ∧
      filtered.failure = some (.unwritten .noSpace) ∧ filtered.exitCode = 1 := by
  intro w explained filtered
  have hexplained : explained.failure = some (.unprinted .noSpace) := by decide +kernel
  have hfiltered : filtered.failure = some (.unwritten .noSpace) := by decide +kernel
  exact ⟨hexplained, Invocation.exitCode_of_failure hexplained, hfiltered,
    Invocation.exitCode_of_failure hfiltered⟩

end ListenQuery

import ListenQuery.Proofs.Command.Mistakes
import ListenQuery.Proofs.Config.File
import ListenQuery.Proofs.Config.Set

/-!
# Commands that set values

A command that sets a value loads the configuration, sets the value and saves what comes of it. So
commands one after another do to the file what the calls they make do to the configuration in it,
and one whose call fails changes no file.
-/

namespace ListenQuery

open Number

/-- Nothing that a command was to write or to print has failed to be written. -/
def Outcome.Written (o : Outcome) : Prop :=
  (∀ e, o.failure ≠ some (.config (.noDirectory e))) ∧
    (∀ path e, o.failure ≠ some (.config (.unwritable path e))) ∧
    ∀ e, o.failure ≠ some (.unprinted e)

theorem Config.failure_of_save {c : Config} {fs : FileSystem} {path : Path} {e : ConfigError}
    (h : (c.save fs path).result = .error e) :
    (∃ cause, e = .noDirectory cause) ∨ ∃ cause, e = .unwritable path cause := by
  unfold save at h
  dsimp only at h
  split at h
  · exact .inl ⟨_, (Except.error.inj h).symm⟩
  · obtain ⟨cause, -, rfl⟩ := mapError_eq_error_iff.1 h
    exact .inr ⟨cause, rfl⟩

section

variable [RealReading] (configPath : Option Path) (verbosity : Nat)

def World.setConfig (w : World) (call : String × String) : Outcome :=
  Invocation.run ⟨configPath, verbosity, .config (.set call.1 call.2)⟩ w

def World.afterSets (w : World) (calls : List (String × String)) : World :=
  calls.foldl (fun w call => { w with files := (w.setConfig configPath verbosity call).files }) w

/-- None of the commands fails to write what it has set. -/
def World.AllWritten (w : World) (calls : List (String × String)) : Prop :=
  ∀ before call after, calls = before ++ call :: after →
    ((w.afterSets configPath verbosity before).setConfig configPath verbosity call).Written

variable {configPath verbosity} {w : World} {path : Path} {c : Config}

theorem World.AllWritten.of_append {calls more : List (String × String)}
    (h : w.AllWritten configPath verbosity (calls ++ more)) :
    w.AllWritten configPath verbosity calls := by
  intro before call after hcalls
  exact h before call (after ++ more) (by rw [hcalls, List.append_assoc, List.cons_append])

theorem World.AllWritten.of_cons {call : String × String} {calls : List (String × String)}
    (h : w.AllWritten configPath verbosity (call :: calls)) :
    (w.setConfig configPath verbosity call).Written ∧
      (w.afterSets configPath verbosity [call]).AllWritten configPath verbosity calls := by
  refine ⟨h [] call calls rfl, fun before next after hcalls => ?_⟩
  exact h (call :: before) next after (by simp [hcalls])

theorem World.load_eq_ok_iff :
    w.load configPath = .ok (path, c) ↔
      Config.path w.environment configPath = .ok path ∧ Config.load w.files path = .ok c := by
  simp only [World.load, bind_eq_ok_iff, pure_eq_ok, Except.ok.injEq, Prod.mk.injEq]
  constructor
  · rintro ⟨_, hpath, _, hload, rfl, rfl⟩
    exact ⟨hpath, hload⟩
  · rintro ⟨hpath, hload⟩
    exact ⟨path, hpath, c, hload, rfl, rfl⟩

section

variable (hload : w.load configPath = .ok (path, c)) {call : String × String}

include hload

theorem World.setConfig_of_error {e : ConfigError}
    (hset : (c.set call.1 call.2).result = .error e) :
    w.setConfig configPath verbosity call = w.fail (.config e) := by
  simp only [setConfig, Invocation.run, hload, Command.run, runConfig, hset]

theorem World.setConfig_of_ok (hset : (c.set call.1 call.2).result = .ok ()) :
    let o := w.setConfig configPath verbosity call
    let saved := (c.next call).save w.files path
    o.files = saved.now ∧ (∀ e, saved.result = .error e → o.failure = some (.config e)) ∧
      (saved.result = .ok () →
        o = { w with files := saved.now }.print ["Set " ++ call.1 ++ " = " ++ call.2 ++ "\n"]) := by
  intro o saved
  have hrun : o = runConfig w c path (.set call.1 call.2) := by
    simp only [o, setConfig, Invocation.run, hload, Command.run]
  rw [hrun]
  simp only [runConfig, hset]
  cases hsaved : ((c.set call.1 call.2).now.save w.files path).result with
  | error e => simp [saved, Config.next, hsaved, fail]
  | ok _ => simp [saved, Config.next, hsaved, print]

theorem World.setConfig_spec (hwritten : (w.setConfig configPath verbosity call).Written) :
    let o := w.setConfig configPath verbosity call
    ((c.set call.1 call.2).result = .ok () ∧ o.exitCode = 0 ∧
        Config.load o.files path = .ok (c.next call)) ∨
      ∃ e, (c.set call.1 call.2).result = .error e ∧ o.exitCode ≠ 0 ∧ o.files = w.files := by
  intro o
  cases hset : (c.set call.1 call.2).result with
  | error e =>
    have hrun : o = w.fail (.config e) := setConfig_of_error hload hset
    obtain ⟨hexit, -, hfiles⟩ := w.fail_spec (.config e)
    exact .inr ⟨e, rfl, hrun ▸ hexit, hrun ▸ hfiles⟩
  | ok _ =>
    obtain ⟨hfiles, herror, hok⟩ : o.files = _ ∧ _ := setConfig_of_ok hload hset
    obtain ⟨hdirectory, hfile, hprinted⟩ : o.Written := hwritten
    cases hsaved : ((c.next call).save w.files path).result with
    | error e =>
      obtain ⟨cause, rfl⟩ | ⟨cause, rfl⟩ := Config.failure_of_save hsaved
      · exact absurd (herror _ hsaved) (hdirectory cause)
      · exact absurd (herror _ hsaved) (hfile _ cause)
    | ok _ =>
      let saved := { w with files := ((c.next call).save w.files path).now }
      have hrun : o = saved.print _ := hok hsaved
      have hprints : saved.output.Prints [] ["Set " ++ call.1 ++ " = " ++ call.2 ++ "\n"] := by
        by_contra hnot
        obtain ⟨e, he⟩ := failure_print_of_not_prints hnot
        exact hprinted e (hrun ▸ he)
      refine .inl ⟨rfl, ?_, ?_⟩
      · rw [hrun, print_of_prints hprints]
        rfl
      · rw [hfiles]
        exact Config.load_of_save hsaved

theorem World.load_setConfig (hwritten : (w.setConfig configPath verbosity call).Written) :
    (w.afterSets configPath verbosity [call]).load configPath = .ok (path, c.next call) := by
  obtain ⟨hpath, hconfig⟩ := load_eq_ok_iff.1 hload
  refine load_eq_ok_iff.2 ⟨hpath, ?_⟩
  obtain ⟨-, -, hafter⟩ | ⟨e, hset, -, hfiles⟩ := setConfig_spec hload hwritten
  · exact hafter
  · have hsame : c.next call = c := Config.now_set_of_error hset
    rw [hsame, ← hconfig]
    exact congrArg (Config.load · path) hfiles

end

theorem World.load_afterSets {calls : List (String × String)}
    (hload : w.load configPath = .ok (path, c))
    (hwritten : w.AllWritten configPath verbosity calls) :
    (w.afterSets configPath verbosity calls).load configPath = .ok (path, c.afterCalls calls) := by
  induction calls generalizing w c with
  | nil => exact hload
  | cons call calls ih =>
    obtain ⟨hfirst, hrest⟩ := hwritten.of_cons
    exact ih (w := w.afterSets configPath verbosity [call]) (load_setConfig hload hfirst) hrest

/-- Commands that set values, one after another, do to the file what the calls do to the
configuration that is loaded from it. Each succeeds if and only if its call does, and one whose call
fails changes no file. So every configuration that is saved is loaded again as it was. -/
theorem run_config_sets (hload : w.load configPath = .ok (path, c))
    (calls : List (String × String)) (hwritten : w.AllWritten configPath verbosity calls) :
    (w.afterSets configPath verbosity calls).load configPath = .ok (path, c.afterCalls calls) ∧
      (∀ before call after, calls = before ++ call :: after →
        let now := w.afterSets configPath verbosity before
        let o := now.setConfig configPath verbosity call
        let changed := (c.afterCalls before).set call.1 call.2
        (o.exitCode = 0 ↔ changed.result = .ok ()) ∧
          ∀ e, changed.result = .error e → o.files = now.files) ∧
      ∀ (c : Config) (fs : FileSystem) (path : Path), (c.save fs path).result = .ok () →
        Config.load (c.save fs path).now path = .ok c := by
  refine ⟨World.load_afterSets hload hwritten, ?_, fun c fs path => Config.load_of_save⟩
  intro before call after hcalls now o changed
  have hnow : now.load configPath = .ok (path, c.afterCalls before) := by
    rw [hcalls] at hwritten
    exact World.load_afterSets hload hwritten.of_append
  obtain ⟨hset, hexit, -⟩ | ⟨e, hset, hexit, hfiles⟩ :=
    World.setConfig_spec hnow (hwritten before call after hcalls)
  · refine ⟨⟨fun _ => hset, fun _ => hexit⟩, fun e herror => ?_⟩
    rw [show changed.result = _ from hset] at herror
    cases herror
  · refine ⟨⟨fun hzero => absurd hzero hexit, fun hok => ?_⟩, fun _ _ => hfiles⟩
    rw [show changed.result = _ from hset] at hok
    cases hok

end

theorem run_config_sets_created :
    let w := World.ofFiles [] []
    let path := some "conf/c.json"
    let calls := [("presets.bad", "no operator"), ("presets.a\".b", "x==1")]
    w.load path = .ok ("conf/c.json", .default) ∧ w.AllWritten path 0 calls ∧
      (w.afterSets path 0 calls).load path =
        .ok ("conf/c.json", ⟨⟨[("a\".b", "x==1")], by decide⟩, .default⟩) := by
  intro w path calls
  have hload : w.load path = .ok ("conf/c.json", .default) := rfl
  have hrejected : (w.setConfig path 0 ("presets.bad", "no operator")).failure =
      some (.config (.invalidPreset "bad" (.invalidClause "no operator"))) := by decide +kernel
  have hcreated : ((w.afterSets path 0 [("presets.bad", "no operator")]).setConfig path 0
      ("presets.a\".b", "x==1")).failure = none := by decide +kernel
  have hwritten : w.AllWritten path 0 calls := by
    intro before call after hcalls
    rcases before with _ | ⟨first, _ | ⟨second, before⟩⟩
    · obtain ⟨rfl, -⟩ := List.cons.inj hcalls
      simp [Outcome.Written, World.afterSets, hrejected]
    · obtain ⟨rfl, hrest⟩ := List.cons.inj hcalls
      obtain ⟨rfl, -⟩ := List.cons.inj hrest
      simp [Outcome.Written, hcreated]
    · simp [calls] at hcalls
  refine ⟨hload, hwritten, ?_⟩
  have hcalls : Config.default.afterCalls calls =
      ⟨⟨[("a\".b", "x==1")], by decide⟩, .default⟩ := by decide +kernel
  rw [← hcalls]
  exact (run_config_sets hload calls hwritten).1

end ListenQuery

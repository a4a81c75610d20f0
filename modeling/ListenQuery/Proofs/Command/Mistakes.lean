import ListenQuery.Proofs.Command.Output
import ListenQuery.Proofs.Config.Conjunction
import ListenQuery.Proofs.Filter.Build

/-!
# Mistakes found before a run

The configuration, the options and the input are all looked at before the output file is created.
So a mistake in any of them ends the run with everything as it was.
-/

namespace ListenQuery

open Number

theorem Failure.exitCode_ne_zero (f : Failure) : f.exitCode ≠ 0 := by
  unfold exitCode
  split_ifs
  · decide
  · split <;> decide

theorem World.fail_spec (w : World) (f : Failure) :
    (w.fail f).exitCode ≠ 0 ∧ (w.fail f).output = [] ∧ (w.fail f).files = w.files :=
  ⟨f.exitCode_ne_zero, rfl, rfl⟩

/-- The files of the list sources in force: those that are named, else those of the settings. -/
def Selection.lists (s : Selection) (c : Config) : List Path :=
  (s.excluded.or c.settings.excluded).toList ++ (s.included.or c.settings.included).toList

/-! ## What a filter and edits are built from -/

section

variable [RealReading]

structure Selection.Valid (s : Selection) (c : Config) (fs : FileSystem) : Prop where
  presets : ∀ name ∈ s.presets, (c.presets.get? name).isSome
  lists : ∀ p ∈ s.lists c, ∃ content entries, fs.readText p = .ok content ∧
    ListSource.entries ⟨p, content⟩ = .ok entries
  filter : ∀ text, c.combine s.filter s.presets = .ok (some text) →
    ∃ conditions, readFilter text = .ok conditions
  after : ∀ text ∈ s.after, ∃ t, Timestamp.read text = some t
  before : ∀ text ∈ s.before, ∃ t, Timestamp.read text = some t
  edits : ∀ expression ∈ s.edits, ∃ edit, Edit.read expression = .ok edit

inductive ListSource.Unusable (fs : FileSystem) (p : Path) : ExpressionError → Prop
  | unreadable {e : FileError} (h : fs.readText p = .error e) : Unusable fs p (.unreadableList p e)
  | invalid {content : String} {e : ExpressionError} (hread : fs.readText p = .ok content)
    (h : entries ⟨p, content⟩ = .error e) : Unusable fs p e

/-- What a filter or an edit cannot be built from, its presets being known. -/
inductive Selection.Fault (s : Selection) (c : Config) (fs : FileSystem) : Prop
  | list {p : Path} {e : ExpressionError} (hp : p ∈ s.lists c) (h : ListSource.Unusable fs p e)
  | clause {text : String} {e : ExpressionError}
    (hcombine : c.combine s.filter s.presets = .ok (some text)) (h : readFilter text = .error e)
  | after {text : String} (htext : text ∈ s.after) (h : Timestamp.read text = none)
  | before {text : String} (htext : text ∈ s.before) (h : Timestamp.read text = none)
  | edit {expression : String} {e : ExpressionError} (hmem : expression ∈ s.edits)
    (h : Edit.read expression = .error e)

variable {c : Config} {fs : FileSystem} {s : Selection} {f : Filter} {m : Modifier}

theorem ListSource.usable_iff {p : Path} :
    (∃ content entries, fs.readText p = .ok content ∧
      ListSource.entries ⟨p, content⟩ = .ok entries) ↔ ∀ e, ¬ Unusable fs p e := by
  constructor
  · rintro ⟨content, entries, hread, hentries⟩ e h
    cases h with
    | unreadable h => simp [h] at hread
    | invalid hread' h =>
      obtain rfl := Except.ok.inj (hread.symm.trans hread')
      simp [h] at hentries
  · intro h
    cases hread : fs.readText p with
    | error e => exact absurd (.unreadable hread) (h _)
    | ok content =>
      cases hentries : ListSource.entries ⟨p, content⟩ with
      | error e => exact absurd (.invalid hread hentries) (h e)
      | ok entries => exact ⟨content, entries, rfl, hentries⟩

theorem Selection.valid_iff :
    s.Valid c fs ↔ (∀ name ∈ s.presets, (c.presets.get? name).isSome) ∧ ¬ s.Fault c fs := by
  constructor
  · intro h
    refine ⟨h.presets, fun hfault => ?_⟩
    cases hfault with
    | list hp hunusable => exact ListSource.usable_iff.1 (h.lists _ hp) _ hunusable
    | clause hcombine hread =>
      obtain ⟨conditions, hok⟩ := h.filter _ hcombine
      simp [hread] at hok
    | after htext hread =>
      obtain ⟨t, hsome⟩ := h.after _ htext
      simp [hread] at hsome
    | before htext hread =>
      obtain ⟨t, hsome⟩ := h.before _ htext
      simp [hread] at hsome
    | edit hmem hread =>
      obtain ⟨edit, hok⟩ := h.edits _ hmem
      simp [hread] at hok
  · rintro ⟨hpresets, h⟩
    constructor
    case presets => exact hpresets
    case lists =>
      intro p hp
      exact ListSource.usable_iff.2 fun e hunusable => h (.list hp hunusable)
    case filter =>
      intro text hcombine
      cases hread : readFilter text with
      | error e => exact absurd (.clause hcombine hread) h
      | ok conditions => exact ⟨conditions, rfl⟩
    case after =>
      intro text htext
      cases hread : Timestamp.read text with
      | none => exact absurd (.after htext hread) h
      | some t => exact ⟨t, rfl⟩
    case before =>
      intro text htext
      cases hread : Timestamp.read text with
      | none => exact absurd (.before htext hread) h
      | some t => exact ⟨t, rfl⟩
    case edits =>
      intro expression hmem
      cases hread : Edit.read expression with
      | error e => exact absurd (.edit hmem hread) h
      | ok edit => exact ⟨edit, rfl⟩

omit [RealReading] in
theorem Config.isSome_of_combine {names : List String} {filter text : Option String}
    (h : c.combine filter names = .ok text) : ∀ name ∈ names, (c.presets.get? name).isSome := by
  obtain ⟨texts, htexts, -⟩ := bind_eq_ok_iff.1 h
  intro name hname
  obtain ⟨preset, -, hpreset⟩ := exists_mem_of_forall₂ (mapM_eq_ok_iff.1 htexts) hname
  cases hget : c.presets.get? name with
  | none => simp [hget] at hpreset
  | some _ => rfl

omit [RealReading] in
theorem Config.loadSource_eq_ok_iff {path : Option Path} {source : Option ListSource} :
    loadSource fs path = .ok source ↔
      path = none ∧ source = none ∨ ∃ p content, path = some p ∧ fs.readText p = .ok content ∧
        source = some ⟨p, content⟩ := by
  cases path with
  | none => simp [loadSource, eq_comm]
  | some p => cases hread : fs.readText p <;> simp [loadSource, hread, eq_comm]

omit [RealReading] in
theorem exists_readBound_iff {bound : Bound} {input : Option String} :
    (∃ t, readBound bound input = .ok t) ↔ ∀ text ∈ input, ∃ t, Timestamp.read text = some t := by
  cases input with
  | none => simp [readBound]
  | some text => cases hread : Timestamp.read text <;> simp [readBound, hread]

theorem exists_entries_iff {path : Option Path} :
    (∃ source entries, Config.loadSource fs path = .ok source ∧
      FilterOptions.entries source = .ok entries) ↔
        ∀ p ∈ path, ∃ content entries, fs.readText p = .ok content ∧
          ListSource.entries ⟨p, content⟩ = .ok entries := by
  simp only [Config.loadSource_eq_ok_iff]
  cases path with
  | none => simp [FilterOptions.entries]
  | some p => simp [FilterOptions.entries]

theorem Selection.build_eq_ok_iff :
    (s.build c fs).result = .ok (f, m) ↔
      ∃ text excluded included, c.combine s.filter s.presets = .ok text ∧
        Config.loadSource fs (s.excluded.or c.settings.excluded) = .ok excluded ∧
        Config.loadSource fs (s.included.or c.settings.included) = .ok included ∧
        FilterOptions.Describes ⟨text, s.after, s.before, excluded, included⟩ f ∧
        s.edits.mapM Edit.read = .ok m.edits := by
  simp only [build, Config.addLists, Modifier.build, Logged.result_bind, Logged.result_ofExcept,
    Logged.mapError, bind_eq_ok_iff, mapError_eq_ok_iff, pure_eq_ok, Except.ok.injEq]
  constructor
  · rintro ⟨text, hcombine, _, ⟨excluded, hexcluded, included, hincluded, rfl⟩, f', hbuild, m',
      ⟨edits, hedits, hm⟩, heq⟩
    obtain ⟨rfl, rfl⟩ := Prod.mk.inj (Except.ok.inj heq)
    obtain rfl := Except.ok.inj hm
    simp only [FilterOptions.none, Option.or_none] at hbuild
    exact ⟨text, excluded, included, hcombine, hexcluded, hincluded,
      Filter.result_build_eq_ok_iff.1 hbuild, hedits⟩
  · rintro ⟨text, excluded, included, hcombine, hexcluded, hincluded, hf, hedits⟩
    refine ⟨text, hcombine, _, ⟨excluded, hexcluded, included, hincluded, rfl⟩, f, ?_, m,
      ⟨m.edits, hedits, rfl⟩, rfl⟩
    simpa only [FilterOptions.none, Option.or_none] using Filter.result_build_eq_ok_iff.2 hf

theorem Selection.valid_of_build (h : (s.build c fs).result = .ok (f, m)) : s.Valid c fs := by
  obtain ⟨text, excluded, included, hcombine, hloaded, hloaded', hf, hedits⟩ :=
    build_eq_ok_iff.1 h
  obtain ⟨hclauses, hafter, hbefore, hexcluded, -, hincluded, -⟩ := hf
  refine ⟨Config.isSome_of_combine hcombine, fun p hp => ?_, fun text' htext => ?_,
    exists_readBound_iff.1 ⟨_, hafter⟩, exists_readBound_iff.1 ⟨_, hbefore⟩,
    fun expression hmem => ?_⟩
  · rcases List.mem_append.1 hp with hp | hp
    · exact exists_entries_iff.1 ⟨_, _, hloaded, hexcluded⟩ p (Option.mem_toList.1 hp)
    · exact exists_entries_iff.1 ⟨_, _, hloaded', hincluded⟩ p (Option.mem_toList.1 hp)
  · obtain rfl := Except.ok.inj (hcombine.symm.trans htext)
    exact ⟨_, hclauses⟩
  · obtain ⟨edit, -, hedit⟩ := exists_mem_of_forall₂ (mapM_eq_ok_iff.1 hedits) hmem
    exact ⟨edit, hedit⟩

theorem Selection.Valid.exists_build (h : s.Valid c fs) :
    ∃ f m, (s.build c fs).result = .ok (f, m) := by
  have hcombine : c.combine s.filter s.presets = _ := Config.combine_eq h.presets
  have hclauses : ∃ clauses,
      readFilterOption (Config.conjoin (c.parts s.filter s.presets)) = .ok clauses := by
    cases htext : Config.conjoin (c.parts s.filter s.presets) with
    | none => exact ⟨[], rfl⟩
    | some text => exact h.filter text (htext ▸ hcombine)
  obtain ⟨clauses, hclauses⟩ := hclauses
  obtain ⟨after, hafter⟩ := exists_readBound_iff.2 h.after
  obtain ⟨before, hbefore⟩ := exists_readBound_iff.2 h.before
  obtain ⟨excluded, _, hloaded, hexcluded⟩ := exists_entries_iff.2 fun p hp =>
    h.lists p (List.mem_append.2 (.inl (Option.mem_toList.2 hp)))
  obtain ⟨included, _, hloaded', hincluded⟩ := exists_entries_iff.2 fun p hp =>
    h.lists p (List.mem_append.2 (.inr (Option.mem_toList.2 hp)))
  obtain ⟨edits, hedits⟩ := exists_forall₂_iff.2 h.edits
  have hf := FilterOptions.Describes.intro
    (o := ⟨_, s.after, s.before, excluded, included⟩) hclauses hafter hbefore hexcluded
    (FilterOptions.sorted_of_entries hexcluded) hincluded
    (FilterOptions.sorted_of_entries hincluded)
  exact ⟨_, ⟨edits⟩, build_eq_ok_iff.2 ⟨_, excluded, included, hcombine, hloaded, hloaded', hf,
    mapM_eq_ok_iff.2 hedits⟩⟩

/-! ## What stops a run -/

omit [RealReading] in
theorem openSource_eq_error {input : Option Path} {failure : Failure}
    (h : openSource fs input = .error failure) :
    ∃ p ∈ input, isStandardInput input = false ∧
      ∃ e, fs.resolve p = .error e ∧ failure = .unopenable p e := by
  unfold openSource at h
  split at h
  · cases h
  next p =>
  split at h
  · cases h
  next hfile =>
  split at h
  · next e hresolve => exact ⟨p, rfl, by simpa using hfile, e, hresolve, (Except.error.inj h).symm⟩
  · cases h
  · cases h

omit [RealReading] in
theorem openTarget_eq_error {output : Option Path} {failure : Failure}
    (h : openTarget fs output = .error failure) :
    ∃ p ∈ output, ∃ e, fs.create p = .error e ∧ failure = .uncreatable p e := by
  unfold openTarget at h
  split at h
  · cases h
  next p =>
  split at h
  · next e hcreate => exact ⟨p, rfl, e, hcreate, (Except.error.inj h).symm⟩
  · cases h

/-- What can be wrong with a run of the filter command before anything of its input is read. -/
inductive World.Mistaken (w : World) (configPath input : Option Path) (s : Selection) : Prop
  | config {e : ConfigError} (h : w.load configPath = .error e)
  | preset {path : Path} {c : Config} {name : String} (hload : w.load configPath = .ok (path, c))
    (hname : name ∈ s.presets) (h : c.presets.get? name = none)
  | unreadableList {path : Path} {c : Config} {p : Path} {e : FileError}
    (hload : w.load configPath = .ok (path, c)) (hp : p ∈ s.lists c)
    (h : w.files.readText p = .error e)
  | invalidList {path : Path} {c : Config} {p : Path} {content : String} {e : ExpressionError}
    (hload : w.load configPath = .ok (path, c)) (hp : p ∈ s.lists c)
    (hread : w.files.readText p = .ok content) (h : ListSource.entries ⟨p, content⟩ = .error e)
  | filter {path : Path} {c : Config} {text : String} {e : ExpressionError}
    (hload : w.load configPath = .ok (path, c))
    (hcombine : c.combine s.filter s.presets = .ok (some text)) (h : readFilter text = .error e)
  | after {text : String} (htext : text ∈ s.after) (h : Timestamp.read text = none)
  | before {text : String} (htext : text ∈ s.before) (h : Timestamp.read text = none)
  | edit {expression : String} {e : ExpressionError} (hmem : expression ∈ s.edits)
    (h : Edit.read expression = .error e)
  | input {p : Path} {e : FileError} (hp : p ∈ input) (hfile : isStandardInput input = false)
    (h : w.files.resolve p = .error e)

variable {w : World} {configPath input : Option Path} {path : Path}

theorem World.Mistaken.of_fault (hload : w.load configPath = .ok (path, c))
    (h : s.Fault c w.files) : w.Mistaken configPath input s := by
  cases h with
  | list hp hunusable =>
    cases hunusable with
    | unreadable h => exact .unreadableList hload hp h
    | invalid hread h => exact .invalidList hload hp hread h
  | clause hcombine h => exact .filter hload hcombine h
  | after htext h => exact .after htext h
  | before htext h => exact .before htext h
  | edit hmem h => exact .edit hmem h

theorem World.Mistaken.not_valid (h : w.Mistaken configPath input s)
    (hload : w.load configPath = .ok (path, c)) (hvalid : s.Valid c w.files) :
    ∃ e, openSource w.files input = .error e := by
  obtain ⟨hpresets, hfault⟩ := Selection.valid_iff.1 hvalid
  have hconfig {path' : Path} {c' : Config} (hload' : w.load configPath = .ok (path', c')) :
      c' = c := (Prod.mk.inj (Except.ok.inj (hload'.symm.trans hload))).2
  cases h with
  | config h => simp [hload] at h
  | preset hload' hname h =>
    obtain rfl := hconfig hload'
    have hsome := hpresets _ hname
    simp [h] at hsome
  | unreadableList hload' hp h => exact absurd (.list (hconfig hload' ▸ hp) (.unreadable h)) hfault
  | invalidList hload' hp hread h =>
    exact absurd (.list (hconfig hload' ▸ hp) (.invalid hread h)) hfault
  | filter hload' hcombine h => exact absurd (.clause (hconfig hload' ▸ hcombine) h) hfault
  | after htext h => exact absurd (.after htext h) hfault
  | before htext h => exact absurd (.before htext h) hfault
  | edit hmem h => exact absurd (.edit hmem h) hfault
  | @input p e hp hfile h =>
    obtain rfl := hp
    exact ⟨.unopenable p e, by simp [openSource, hfile, h]⟩

theorem World.exists_openSource (h : ¬ w.Mistaken configPath input s) :
    ∃ path c f m opened, w.load configPath = .ok (path, c) ∧
      (s.build c w.files).result = .ok (f, m) ∧ openSource w.files input = .ok opened := by
  cases hload : w.load configPath with
  | error e => exact absurd (.config hload) h
  | ok loaded =>
    obtain ⟨path, c⟩ := loaded
    have hpresets : ∀ name ∈ s.presets, (c.presets.get? name).isSome := by
      intro name hname
      by_contra hnone
      exact h (.preset hload hname (Option.not_isSome_iff_eq_none.1 hnone))
    have hvalid : s.Valid c w.files :=
      Selection.valid_iff.2 ⟨hpresets, fun hfault => h (.of_fault hload hfault)⟩
    obtain ⟨f, m, hbuilt⟩ := hvalid.exists_build
    cases hopen : openSource w.files input with
    | ok opened => exact ⟨path, c, f, m, opened, rfl, hbuilt, rfl⟩
    | error e =>
      obtain ⟨p, hp, hfile, e', hresolve, -⟩ := openSource_eq_error hopen
      exact absurd (.input hp hfile hresolve) h

/-- A mistake in the configuration, in an option or in the path of the input makes the command fail.
It writes nothing, and all files are as they were, an output file that exists among them. -/
theorem run_filter_of_mistaken (h : w.Mistaken configPath input s) (verbosity : Nat)
    (output : Option Path) (count : Bool) :
    let o := Invocation.run ⟨configPath, verbosity, .filter input s output count⟩ w
    o.exitCode ≠ 0 ∧ o.output = [] ∧ o.files = w.files := by
  intro o
  cases hload : w.load configPath with
  | error e =>
    have hrun : o = w.fail (.config e) := by simp only [o, Invocation.run, hload]
    rw [hrun]
    exact w.fail_spec _
  | ok loaded =>
    obtain ⟨path, c⟩ := loaded
    cases hbuilt : (s.build c w.files).result with
    | error e =>
      have hrun : o = { w.fail e with events := (s.build c w.files).events ++ [] } := by
        simp only [o, Invocation.run, hload, Command.run, withSelection, hbuilt]
        rfl
      rw [hrun]
      exact w.fail_spec e
    | ok built =>
      obtain ⟨f, m⟩ := built
      obtain ⟨e, hopen⟩ := h.not_valid hload (Selection.valid_of_build hbuilt)
      obtain ⟨hfiles, houtput, hfailure⟩ : o.files = _ ∧ o.output = _ ∧ o.failure = _ :=
        Invocation.run_filter hload hbuilt output count
      have hrun : runFilter w f m input output count = w.fail e := by simp only [runFilter, hopen]
      rw [hrun] at hfiles houtput hfailure
      obtain ⟨hexit, hnothing, hsame⟩ := w.fail_spec e
      refine ⟨?_, houtput.trans hnothing, hfiles.trans hsame⟩
      rw [Outcome.exitCode, hfailure]
      exact hexit

end

def keptFiles : World :=
  .ofFiles [(["in.jsonl"], .file (utf8Of foundLine.toList ++ [10])),
    (["out.jsonl"], .file [107, 10])] []

theorem run_filter_of_mistaken_edit :
    let s : Selection := ⟨some "a==1", [], some "0", none, none, none, ["b=2", "broken"]⟩
    let o := keptFiles |>
      Invocation.run ⟨none, 0, .filter (some "in.jsonl") s (some "out.jsonl") false⟩
    keptFiles.Mistaken none (some "in.jsonl") s ∧ o.exitCode ≠ 0 ∧ o.output = [] ∧
      o.files.readBytes "out.jsonl" = .ok [107, 10] := by
  intro s o
  have hread : Edit.read "broken" = .error (.invalidEdit "broken") := rfl
  have hmistaken : keptFiles.Mistaken none (some "in.jsonl") s :=
    .edit (List.mem_cons_of_mem _ List.mem_cons_self) hread
  obtain ⟨hexit, houtput, hfiles⟩ := run_filter_of_mistaken hmistaken 0 (some "out.jsonl") false
  refine ⟨hmistaken, hexit, houtput, ?_⟩
  rw [show o.files = _ from hfiles]
  rfl

end ListenQuery

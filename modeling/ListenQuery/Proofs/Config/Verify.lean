import ListenQuery.Proofs.Command.Mistakes
import ListenQuery.Proofs.Config.File
import ListenQuery.Proofs.Config.Set

/-!
# Verifying a configuration

Verifying reports a problem for each value of a configuration that cannot be used, in the order of
their keys. A filter is built from a preset exactly if neither the preset nor a list source of the
settings has a problem. Texts of problems may be the same where the name of a preset looks like a
message, and so problems are told apart by their keys.
-/

namespace ListenQuery

open Number

structure Problem where
  key : ConfigKey
  message : String

def Problem.text (p : Problem) : String := p.key.text ++ ": " ++ p.message

def ConfigKey.rank : ConfigKey → Nat
  | .preset _ => 0
  | .excluded => 1
  | .included => 2
  | .log => 3

/-- Presets come first, by name, and then the list sources and the log setting. -/
def ConfigKey.Precedes (k l : ConfigKey) : Prop :=
  k.rank < l.rank ∨ ∃ a b, k = .preset a ∧ l = .preset b ∧ a < b

def Settings.list? (s : Settings) : ConfigKey → Option Path
  | .excluded => s.excluded
  | .included => s.included
  | _ => none

section

variable [RealReading]

inductive Problem.Of (c : Config) (fs : FileSystem) : Problem → Prop
  | preset {name text : String} {e : ExpressionError} (hpreset : c.presets.get? name = some text)
    (h : readFilter text = .error e) : Of c fs ⟨.preset name, e.message⟩
  | list {key : ConfigKey} {p : Path} {e : ExpressionError} (hpath : c.settings.list? key = some p)
    (h : ListSource.Unusable fs p e) : Of c fs ⟨key, e.message⟩
  | log {e : LogSettingError} (h : LogSetting.check c.settings.log = .error e) :
    Of c fs ⟨.log, e.message⟩

end

/-! ## The problems that are reported -/

section

variable {ε α : Type}

def Problem.ofResult (key : ConfigKey) (message : ε → String) : Except ε α → List Problem
  | .ok _ => []
  | .error e => [⟨key, message e⟩]

variable {key : ConfigKey} {message : ε → String} {result : Except ε α} {p : Problem}

theorem Problem.mem_ofResult_iff :
    p ∈ ofResult key message result ↔ ∃ e, result = .error e ∧ p = ⟨key, message e⟩ := by
  cases result <;> simp [ofResult]

theorem Problem.key_of_mem (h : p ∈ ofResult key message result) : p.key = key := by
  obtain ⟨e, -, rfl⟩ := mem_ofResult_iff.1 h
  rfl

theorem Problem.pairwise_ofResult (R : Problem → Problem → Prop) :
    (ofResult key message result).Pairwise R := by
  cases result <;> simp [ofResult]

end

namespace Config

def presetReport (c : Config) : List Problem :=
  c.presets.toFields.flatMap fun (name, text) =>
    Problem.ofResult (.preset name) ExpressionError.message (readFilter text)

def logReport (c : Config) : List Problem :=
  Problem.ofResult .log LogSettingError.message (LogSetting.check c.settings.log)

section

variable [RealReading] {c : Config} {fs : FileSystem}

def listReport (fs : FileSystem) (key : ConfigKey) (path : Option Path) : List Problem :=
  path.toList.flatMap fun p => Problem.ofResult key ExpressionError.message (checkSource fs p)

def report (fs : FileSystem) (c : Config) : List Problem :=
  c.presetReport ++ (listReport fs .excluded c.settings.excluded ++
    (listReport fs .included c.settings.included ++ c.logReport))

omit [RealReading] in
theorem presetProblems_eq (c : Config) : c.presetProblems = c.presetReport.map Problem.text := by
  rw [presetProblems, presetReport, List.map_flatMap, List.filterMap_eq_flatMap_toList]
  refine List.flatMap_congr fun preset _ => ?_
  obtain ⟨name, text⟩ := preset
  cases h : readFilter text <;> simp [h, Problem.ofResult, Problem.text, ConfigKey.text]

theorem listProblems_eq (key : ConfigKey) (path : Option Path) :
    listProblems fs key.text path = (listReport fs key path).map Problem.text := by
  cases path with
  | none => rfl
  | some p =>
    cases h : checkSource fs p <;>
      simp [listProblems, listReport, h, Problem.ofResult, Problem.text]

omit [RealReading] in
theorem logProblems_eq (c : Config) : c.logProblems = c.logReport.map Problem.text := by
  cases h : LogSetting.check c.settings.log <;>
    simp [logProblems, logReport, h, Problem.ofResult, Problem.text, ConfigKey.text]

theorem problems_eq (fs : FileSystem) (c : Config) :
    c.problems fs = (c.report fs).map Problem.text := by
  have hexcluded : listProblems fs "settings.exclude" c.settings.excluded = _ :=
    listProblems_eq .excluded c.settings.excluded
  have hincluded : listProblems fs "settings.include" c.settings.included = _ :=
    listProblems_eq .included c.settings.included
  simp only [problems, report, presetProblems_eq, logProblems_eq, hexcluded, hincluded,
    List.map_append, List.append_assoc]

theorem checkSource_eq_error_iff {p : Path} {e : ExpressionError} :
    checkSource fs p = .error e ↔ ListSource.Unusable fs p e := by
  unfold checkSource
  constructor
  · intro h
    split at h
    · next hread =>
      obtain rfl := Except.error.inj h
      exact .unreadable hread
    · next content hread =>
      cases hentries : ListSource.entries ⟨p, content⟩ with
      | error e' =>
        rw [hentries] at h
        obtain rfl := Except.error.inj h
        exact .invalid hread hentries
      | ok entries => simp [hentries] at h
  · intro h
    cases h with
    | unreadable hread => simp [hread]
    | invalid hread hentries => simp [hread, hentries]

theorem mem_report_iff {p : Problem} :
    p ∈ c.report fs ↔ p.Of c fs := by
  simp only [report, presetReport, listReport, logReport, List.mem_append, List.mem_flatMap,
    Problem.mem_ofResult_iff, Option.mem_toList, checkSource_eq_error_iff]
  constructor
  · rintro (⟨⟨name, text⟩, hmem, e, h, rfl⟩ | ⟨path, hpath, e, h, rfl⟩ | ⟨path, hpath, e, h, rfl⟩ |
      ⟨e, h, rfl⟩)
    · exact .preset (SortedFields.get?_eq_some_iff.2 hmem) h
    · exact .list hpath h
    · exact .list hpath h
    · exact .log h
  · intro h
    cases h with
    | preset hpreset h => exact .inl ⟨_, SortedFields.get?_eq_some_iff.1 hpreset, _, h, rfl⟩
    | @list key path e hpath h =>
      cases key with
      | excluded => exact .inr (.inl ⟨path, hpath, e, h, rfl⟩)
      | included => exact .inr (.inr (.inl ⟨path, hpath, e, h, rfl⟩))
      | log => cases hpath
      | preset name => cases hpath
    | log h => exact .inr (.inr (.inr ⟨_, h, rfl⟩))

omit [RealReading] in
theorem key_of_mem_presetReport {p : Problem} (h : p ∈ c.presetReport) :
    ∃ name, p.key = .preset name := by
  obtain ⟨⟨name, text⟩, -, hp⟩ := List.mem_flatMap.1 h
  exact ⟨name, Problem.key_of_mem hp⟩

theorem key_of_mem_listReport {key : ConfigKey} {path : Option Path} {p : Problem}
    (h : p ∈ listReport fs key path) : p.key = key := by
  obtain ⟨_, -, hp⟩ := List.mem_flatMap.1 h
  exact Problem.key_of_mem hp

omit [RealReading] in
theorem pairwise_presetReport (c : Config) : c.presetReport.Pairwise (·.key.Precedes ·.key) := by
  rw [presetReport, List.pairwise_flatMap]
  refine ⟨fun _ _ => Problem.pairwise_ofResult _,
    c.presets.sorted.imp fun {a b} hlt p hp q hq => ?_⟩
  rw [Problem.key_of_mem hp, Problem.key_of_mem hq]
  exact .inr ⟨a.1, b.1, rfl, rfl, hlt⟩

theorem pairwise_listReport (key : ConfigKey) (path : Option Path) :
    (listReport fs key path).Pairwise (·.key.Precedes ·.key) := by
  cases path with
  | none => exact .nil
  | some p => simpa [listReport] using Problem.pairwise_ofResult _

theorem pairwise_report (fs : FileSystem) (c : Config) :
    (c.report fs).Pairwise (·.key.Precedes ·.key) := by
  have hlog {p : Problem} (hp : p ∈ c.logReport) : p.key = .log := Problem.key_of_mem hp
  simp only [report, List.pairwise_append, List.mem_append]
  refine ⟨pairwise_presetReport c, ⟨pairwise_listReport _ _, ⟨pairwise_listReport _ _,
    Problem.pairwise_ofResult _, ?included⟩, ?excluded⟩, ?presets⟩
  case included =>
    intro p hp q hq
    rw [key_of_mem_listReport hp, hlog hq]
    exact .inl (by decide)
  case excluded =>
    rintro p hp q (hq | hq)
    · rw [key_of_mem_listReport hp, key_of_mem_listReport hq]
      exact .inl (by decide)
    · rw [key_of_mem_listReport hp, hlog hq]
      exact .inl (by decide)
  case presets =>
    intro p hp q hq
    obtain ⟨name, hname⟩ := key_of_mem_presetReport hp
    rw [hname]
    rcases hq with hq | hq | hq
    · rw [key_of_mem_listReport hq]
      exact .inl Nat.zero_lt_one
    · rw [key_of_mem_listReport hq]
      exact .inl Nat.zero_lt_two
    · rw [hlog hq]
      exact .inl (Nat.zero_lt_succ 2)

end

end Config

/-! ## What the problems tell about a run -/

section

variable [RealReading]

def Selection.ofPresets (names : List String) : Selection :=
  ⟨none, names, none, none, none, none, []⟩

def Selection.Builds (s : Selection) (c : Config) (fs : FileSystem) : Prop :=
  ∃ f m, (s.build c fs).result = .ok (f, m)

variable {c : Config} {fs : FileSystem}

theorem Selection.builds_iff_valid {s : Selection} : s.Builds c fs ↔ s.Valid c fs :=
  ⟨fun ⟨_, _, h⟩ => valid_of_build h, Valid.exists_build⟩

omit [RealReading] in
theorem Config.readFilterOption_conjoin_one (text : String) :
    readFilterOption (conjoin [text]) = readFilter text := by
  cases hblank : isBlankText text with
  | true =>
    have hall : Text.allBlank text.toList = true := hblank
    simp [conjoin, hblank, readFilterOption, readFilter, hall]
  | false => simp [conjoin, hblank, readFilterOption]

theorem Selection.builds_ofPresets_iff {names : List String}
    (hnames : ∀ name ∈ names, (c.presets.get? name).isSome) :
    (ofPresets names).Builds c fs ↔
      (∃ conditions, readFilterOption (Config.conjoin (names.filterMap c.presets.get?)) =
        .ok conditions) ∧
      (∀ p ∈ c.settings.list? .excluded, ∀ e, ¬ ListSource.Unusable fs p e) ∧
      ∀ p ∈ c.settings.list? .included, ∀ e, ¬ ListSource.Unusable fs p e := by
  have hcombine : c.combine none names = .ok (Config.conjoin (names.filterMap c.presets.get?)) := by
    simp [Config.combine, Config.presetTexts_eq hnames, bind, Except.bind]
  rw [builds_iff_valid]
  constructor
  · intro h
    refine ⟨?_, fun p hp => ListSource.usable_iff.1 (h.lists p ?_),
      fun p hp => ListSource.usable_iff.1 (h.lists p ?_)⟩
    · cases htext : Config.conjoin (names.filterMap c.presets.get?) with
      | none => exact ⟨[], rfl⟩
      | some text => exact h.filter text (htext ▸ hcombine)
    · exact List.mem_append.2 (.inl (Option.mem_toList.2 hp))
    · exact List.mem_append.2 (.inr (Option.mem_toList.2 hp))
  · intro h
    obtain ⟨⟨conditions, hconditions⟩, hexcluded, hincluded⟩ := h
    refine ⟨hnames, fun p hp => ListSource.usable_iff.2 ?_, fun text htext => ?_,
      by simp [ofPresets], by simp [ofPresets], by simp [ofPresets]⟩
    · rcases List.mem_append.1 hp with hp | hp
      · exact hexcluded p (Option.mem_toList.1 hp)
      · exact hincluded p (Option.mem_toList.1 hp)
    · rw [← Except.ok.inj (htext.symm.trans hcombine)] at hconditions
      exact ⟨conditions, hconditions⟩

theorem Config.no_list_problem_iff (fs : FileSystem) (c : Config) {key : ConfigKey}
    (hkey : key = .excluded ∨ key = .included) :
    (∀ p ∈ c.report fs, p.key ≠ key) ↔
      ∀ path ∈ c.settings.list? key, ∀ e, ¬ ListSource.Unusable fs path e := by
  simp only [mem_report_iff]
  constructor
  · intro h path hpath e he
    exact h _ (.list hpath he) rfl
  · rintro h p hp rfl
    cases hp with
    | list hpath he => exact h _ hpath _ he
    | preset => simp at hkey
    | log => simp at hkey

theorem Config.no_preset_problem_iff (fs : FileSystem) {name text : String}
    (htext : c.presets.get? name = some text) :
    (∀ p ∈ c.report fs, p.key ≠ .preset name) ↔ ∃ conditions, readFilter text = .ok conditions := by
  simp only [mem_report_iff]
  constructor
  · intro h
    cases hread : readFilter text with
    | ok conditions => exact ⟨conditions, rfl⟩
    | error e => exact absurd rfl (h _ (.preset htext hread))
  · intro h p hp hkey
    obtain ⟨conditions, hread⟩ := h
    cases hp with
    | preset htext' hread' =>
      obtain rfl := ConfigKey.preset.inj hkey
      obtain rfl := Option.some.inj (htext.symm.trans htext')
      simp [hread] at hread'
    | @list key path e hpath he =>
      obtain rfl : key = .preset name := hkey
      cases hpath
    | log => cases hkey

/-- Verifying a file that can be read lists the problems of its configuration, and they tell which
runs that name at most one preset and nothing else find their filter. -/
theorem Config.verify_builds {path : Path} {text : String} (htext : fs.readText path = .ok text)
    (hread : Config.read text = .ok c) :
    load fs path = .ok c ∧ ∃ problems : List Problem,
      verify fs path = .ok (problems.map Problem.text) ∧
      problems.Pairwise (·.key.Precedes ·.key) ∧ (∀ p, p ∈ problems ↔ p.Of c fs) ∧
      ((Selection.ofPresets []).Builds c fs ↔
        ∀ p ∈ problems, p.key ≠ .excluded ∧ p.key ≠ .included) ∧
      ∀ name, (c.presets.get? name).isSome →
        ((Selection.ofPresets [name]).Builds c fs ↔
          ∀ p ∈ problems, p.key ≠ .preset name ∧ p.key ≠ .excluded ∧ p.key ≠ .included) := by
  have hverify : verify fs path = .ok ((c.report fs).map Problem.text) := by
    simp [verify, FileSystem.pathExists_of_readText htext, htext, hread, problems_eq]
  have hexcluded := no_list_problem_iff fs c (.inl rfl)
  have hincluded := no_list_problem_iff fs c (.inr rfl)
  refine ⟨load_of_readText htext hread, c.report fs, hverify, pairwise_report fs c,
    fun p => mem_report_iff, ?_, fun name hname => ?_⟩
  · rw [Selection.builds_ofPresets_iff (by simp), ← hexcluded, ← hincluded]
    simp [conjoin, readFilterOption, forall_and]
  · obtain ⟨preset, hpreset⟩ := Option.isSome_iff_exists.1 hname
    have hone : [name].filterMap c.presets.get? = [preset] := by simp [hpreset]
    have hproblem := no_preset_problem_iff fs hpreset
    rw [Selection.builds_ofPresets_iff (by simpa using hname), hone, readFilterOption_conjoin_one,
      ← hproblem, ← hexcluded, ← hincluded]
    simp only [forall_and]

end

def mixedPresets : Config :=
  ⟨⟨[("bad", "no operator"), ("blank", " "), ("good", "x==1")], by decide⟩, .default⟩

theorem Config.verify_builds_mixedPresets :
    let _ := Listen.nearestReading
    let fs : FileSystem :=
      ⟨[(["c.json"], .file mixedPresets.text.toUTF8.toList)], fun _ => .whole⟩
    fs.readText "c.json" = .ok mixedPresets.text ∧
      Config.read mixedPresets.text = .ok mixedPresets ∧
      ¬ (Selection.ofPresets ["bad"]).Builds mixedPresets fs ∧
      (Selection.ofPresets ["blank"]).Builds mixedPresets fs := by
  intro _ fs
  have htext : fs.readText "c.json" = .ok mixedPresets.text :=
    FileSystem.readText_of_readBytes rfl
  have hread : Config.read mixedPresets.text = .ok mixedPresets :=
    read_text mixedPresets
  obtain ⟨-, problems, -, -, hproblems, -, hbuilds⟩ := verify_builds htext hread
  refine ⟨htext, hread, fun h => ?_, (hbuilds "blank" (by decide)).2 fun p hp => ?_⟩
  · have hbad : readFilter "no operator" = .error (.invalidClause "no operator") := by decide
    exact ((hbuilds "bad" (by decide)).1 h _ ((hproblems _).2 (.preset rfl hbad))).1 rfl
  · cases (hproblems p).1 hp with
    | @preset name text e hpreset h =>
      refine ⟨fun hkey => ?_, by simp, by simp⟩
      obtain rfl : name = "blank" := ConfigKey.preset.inj hkey
      obtain rfl : " " = text := Option.some.inj hpreset
      cases h
    | @list key path e hpath =>
      cases key <;> cases hpath
    | log => simp

end ListenQuery

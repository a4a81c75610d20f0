import ListenQuery.Proofs.Command.ConfigSet
import ListenQuery.Proofs.Config.Verify
import ListenQuery.Proofs.Filter.Evaluation

/-!
# Faults

What makes a command fail, and of what class it is: an expression that cannot be built or applied, a
configuration with problems, a text that cannot be printed, or anything else. Only the first fault
counts, and so a fault of a later stage asks for the earlier ones to have succeeded.
-/

namespace ListenQuery

open Number

inductive FaultClass
  | expression
  | problems
  | unprinted
  | other

def FaultClass.exitCode : FaultClass → Nat
  | .expression => 3
  | .problems => 4
  | .unprinted => 101
  | .other => 1

/-- Evaluating a condition on a value compares the value with some literal. -/
def Condition.Compares (c : Condition) : Prop :=
  match c.operand with
  | .literal _ => c.operator ≠ .xor
  | .set literals => (c.operator = .eq ∨ c.operator = .ne) ∧ literals ≠ []

/-- Checking a listen comes to a condition that compares an attribute that is an object. -/
def Filter.ComparesObject (f : Filter) (l : Listen) : Prop :=
  (f.range.min < l.listenedAt ∧ l.listenedAt < f.range.max) ∧
    ∃ passed c rest, f.conditions = passed ++ c :: rest ∧ (∀ d ∈ passed, ¬ d.Stops l.get) ∧
      c.Compares ∧ l.get c.key = .object

def Filter.Checkable (f : Filter) (x : Except LineError Listen) : Prop :=
  ∃ l verdict, x = .ok l ∧ f.check l = .ok verdict

/-- A run comes to what is behind some elements: each is a listen that can be checked and, unless
the run only counts, the lines of those that are kept can be written. -/
structure Filter.Passes (f : Filter) (m : Modifier) (s : Sink) (count : Bool)
    (passed : List (Except LineError Listen)) : Prop where
  checkable : ∀ x ∈ passed, f.Checkable x
  written : count = false → s.Writes [] ((f.kept passed).map m.apply)

def Command.selection? : Command → Option Selection
  | .filter _ s _ _ => some s
  | .explain s _ => some s
  | _ => none

section

variable [RealReading]

/-- The sink that a run writes to and the elements that it reads once both of its files are open. -/
inductive World.Reads (w : World) (input output : Option Path) :
    Sink → List (Except LineError Listen) → Prop
  | intro {opened : Source} {target : Option Place} {files : FileSystem}
    (hopen : openSource w.files input = .ok opened)
    (htarget : openTarget w.files output = .ok (target, files)) :
    Reads w input output ({ w with files }.sink target) (opened.listens { w with files })

namespace Invocation

inductive Filters (i : Invocation) (w : World) (input output : Option Path) (count : Bool)
    (f : Filter) (m : Modifier) : Prop
  | intro {path : Path} {c : Config} {s : Selection}
    (hcommand : i.command = .filter input s output count)
    (hload : w.load i.configPath = .ok (path, c))
    (hbuilt : (s.build c w.files).result = .ok (f, m)) : Filters i w input output count f m

/-- The texts that a command prints when it has found out what to print. -/
inductive Prints (i : Invocation) (w : World) : List String → Prop
  | explanation {path : Path} {c : Config} {s : Selection} {json : Bool} {f : Filter} {m : Modifier}
    (hcommand : i.command = .explain s json) (hload : w.load i.configPath = .ok (path, c))
    (hbuilt : (s.build c w.files).result = .ok (f, m)) :
    Prints i w ((Explanation.of f m).texts json)
  | configuration {path : Path} {c : Config} (hcommand : i.command = .config .showAll)
    (hload : w.load i.configPath = .ok (path, c)) : Prints i w [c.text ++ "\n"]
  | path {path : Path} {c : Config} (hcommand : i.command = .config .path)
    (hload : w.load i.configPath = .ok (path, c)) : Prints i w [path ++ "\n"]
  | setting {path : Path} {c : Config} {key value : String}
    (hcommand : i.command = .config (.set key value))
    (hload : w.load i.configPath = .ok (path, c)) (hset : (c.set key value).result = .ok ())
    (hsaved : ((c.set key value).now.save w.files path).result = .ok ()) :
    Prints i w ["Set " ++ key ++ " = " ++ value ++ "\n"]
  | verdict {path : Path} {c : Config} (hcommand : i.command = .config .verify)
    (hload : w.load i.configPath = .ok (path, c)) (hfile : w.files.pathExists path = true) :
    Prints i w (verdictTexts path (c.problems w.files))
  | script {path : Path} {c : Config} {shell : String} (hcommand : i.command = .completions shell)
    (hload : w.load i.configPath = .ok (path, c)) : Prints i w [w.script shell]

/-- What makes a command fail, and of what class it is. -/
inductive Fails (i : Invocation) (w : World) : FaultClass → Prop
  | config {e : ConfigError} (h : w.load i.configPath = .error e) : Fails i w .other
  | unknownPreset {path : Path} {c : Config} {s : Selection} {name : String}
    (hload : w.load i.configPath = .ok (path, c)) (hs : i.command.selection? = some s)
    (hname : name ∈ s.presets) (h : c.presets.get? name = none) : Fails i w .other
  | selection {path : Path} {c : Config} {s : Selection}
    (hload : w.load i.configPath = .ok (path, c)) (hs : i.command.selection? = some s)
    (hpresets : ∀ name ∈ s.presets, (c.presets.get? name).isSome) (h : s.Fault c w.files) :
    Fails i w .expression
  | input {input output : Option Path} {count : Bool} {f : Filter} {m : Modifier} {p : Path}
    {e : FileError} (hfilters : i.Filters w input output count f m) (hp : p ∈ input)
    (hfile : isStandardInput input = false) (h : w.files.resolve p = .error e) : Fails i w .other
  | output {input output : Option Path} {count : Bool} {f : Filter} {m : Modifier} {p : Path}
    {e : FileError} (hfilters : i.Filters w input output count f m) (hp : p ∈ output)
    (h : w.files.create p = .error e) : Fails i w .other
  | line {input output : Option Path} {count : Bool} {f : Filter} {m : Modifier} {sink : Sink}
    {e : LineError} {passed rest : List (Except LineError Listen)}
    (hfilters : i.Filters w input output count f m)
    (hreads : w.Reads input output sink (passed ++ .error e :: rest))
    (hpassed : f.Passes m sink count passed) : Fails i w .other
  | comparison {input output : Option Path} {count : Bool} {f : Filter} {m : Modifier} {sink : Sink}
    {l : Listen} {passed rest : List (Except LineError Listen)}
    (hfilters : i.Filters w input output count f m)
    (hreads : w.Reads input output sink (passed ++ .ok l :: rest))
    (hpassed : f.Passes m sink count passed) (h : f.ComparesObject l) : Fails i w .expression
  | write {input output : Option Path} {f : Filter} {m : Modifier} {sink : Sink} {l : Listen}
    {warnings : List Warning} {passed rest : List (Except LineError Listen)}
    (hfilters : i.Filters w input output false f m)
    (hreads : w.Reads input output sink (passed ++ .ok l :: rest))
    (hpassed : f.Passes m sink false passed) (hkept : f.check l = .ok ⟨true, warnings⟩)
    (h : sink.lineFault? (Listen.writeAll ((f.kept passed).map m.apply)) (m.apply l) ≠ none) :
    Fails i w .other
  | flush {input output : Option Path} {f : Filter} {m : Modifier} {sink : Sink}
    {stream : List (Except LineError Listen)} (hfilters : i.Filters w input output false f m)
    (hreads : w.Reads input output sink stream) (hpassed : f.Passes m sink false stream)
    (h : sink.flush? (Listen.writeAll ((f.kept stream).map m.apply)) ≠ none) : Fails i w .other
  | count {input output : Option Path} {f : Filter} {m : Modifier} {sink : Sink}
    {stream : List (Except LineError Listen)} (hfilters : i.Filters w input output true f m)
    (hreads : w.Reads input output sink stream) (hpassed : f.Passes m sink true stream)
    (h : sink.fault? (countLine (f.kept stream).length stream.length) ≠ none) : Fails i w .other
  | unknownKey {path : Path} {c : Config} {key value : String}
    (hload : w.load i.configPath = .ok (path, c)) (hcommand : i.command = .config (.set key value))
    (h : ConfigKey.read key = none) : Fails i w .other
  | invalidPreset {path : Path} {c : Config} {key value name : String} {e : ExpressionError}
    (hload : w.load i.configPath = .ok (path, c)) (hcommand : i.command = .config (.set key value))
    (hkey : ConfigKey.read key = some (.preset name)) (hvalue : value ≠ "")
    (h : readFilter value = .error e) : Fails i w .expression
  | unsaved {path : Path} {c : Config} {key value : String} {e : ConfigError}
    (hload : w.load i.configPath = .ok (path, c)) (hcommand : i.command = .config (.set key value))
    (hset : (c.set key value).result = .ok ())
    (h : ((c.set key value).now.save w.files path).result = .error e) : Fails i w .other
  | missing {path : Path} {c : Config} (hload : w.load i.configPath = .ok (path, c))
    (hcommand : i.command = .config .verify) (h : w.files.pathExists path = false) :
    Fails i w .other
  | problem {path : Path} {c : Config} {p : Problem} (hload : w.load i.configPath = .ok (path, c))
    (hcommand : i.command = .config .verify) (hfile : w.files.pathExists path = true)
    (hprinted : w.output.Prints [] (verdictTexts path (c.problems w.files)))
    (h : p.Of c w.files) : Fails i w .problems
  | unprinted {texts : List String} (hprints : i.Prints w texts)
    (h : ¬ w.output.Prints [] texts) : Fails i w .unprinted

end Invocation

end

/-! ## Comparing objects -/

theorem Condition.exists_evaluate_object_iff {c : Condition} :
    (∃ e, evaluate c .object = .error e) ↔ c.Compares := by
  obtain ⟨key, operator, operand⟩ := c
  cases operand with
  | literal text =>
    cases operator <;> simp [evaluate, evaluateScalar, Value.compareWith, Value.isList, Compares,
      Except.mapError]
  | set literals =>
    cases literals <;> cases operator <;> simp [evaluate, evaluateScalar, equalsAny,
      Value.compareWith, Value.isList, Compares, Except.mapError]

theorem Condition.exists_evaluate_error_iff {c : Condition} {v : Value} :
    (∃ e, evaluate c v = .error e) ↔ c.Compares ∧ v = .object := by
  constructor
  · rintro ⟨e, h⟩
    obtain ⟨hscalar, -⟩ := Value.not_isScalar_of_evaluate h
    have hlist : v.isList = false := by
      cases hv : v.isList with
      | true => simp [evaluate, hv] at h
      | false => rfl
    obtain rfl : v = .object := by
      by_contra hobject
      exact hscalar ⟨hlist, hobject⟩
    exact ⟨exists_evaluate_object_iff.1 ⟨e, h⟩, rfl⟩
  · rintro ⟨hcompares, rfl⟩
    exact exists_evaluate_object_iff.2 hcompares

namespace Filter

variable {f : Filter} {l : Listen} {x : Except LineError Listen}

theorem exists_check_error_iff : (∃ e, f.check l = .error e) ↔ f.ComparesObject l := by
  simp only [check_eq_iff]
  constructor
  · rintro ⟨e, h⟩
    cases h with
    | within hrange hall =>
      cases hall with
      | @error passed c rest e hsplit hpassed hc =>
        obtain ⟨hcompares, hobject⟩ := Condition.exists_evaluate_error_iff.1 ⟨e, hc⟩
        exact ⟨hrange, passed, c, rest, hsplit, hpassed, hcompares, hobject⟩
  · rintro ⟨hrange, passed, c, rest, hsplit, hpassed, hcompares, hobject⟩
    obtain ⟨e, hc⟩ := Condition.exists_evaluate_error_iff.2 ⟨hcompares, hobject⟩
    exact ⟨e, .within hrange (.error hsplit hpassed hc)⟩

theorem stop?_eq_none_iff : f.stop? x = none ↔ f.Checkable x := by
  cases x with
  | error e => simp [stop?, Checkable]
  | ok l => cases hcheck : f.check l <;> simp [stop?, Checkable, hcheck]

theorem stop?_of_comparesObject (h : f.ComparesObject l) :
    ∃ e, f.stop? (.ok l) = some (.expression e) := by
  obtain ⟨e, hcheck⟩ := exists_check_error_iff.2 h
  exact ⟨e, by simp [stop?, hcheck]⟩

theorem cases_of_stop? {failure : Failure} (h : f.stop? x = some failure) :
    (∃ e, x = .error e) ∨ ∃ l, x = .ok l ∧ f.ComparesObject l := by
  cases x with
  | error e => exact .inl ⟨e, rfl⟩
  | ok l =>
    cases hcheck : f.check l with
    | error e => exact .inr ⟨l, rfl, exists_check_error_iff.1 ⟨e, hcheck⟩⟩
    | ok verdict => simp [stop?, hcheck] at h

end Filter

/-! ## Building -/

theorem Config.presetTexts_eq_error {c : Config} {names : List String} {e : ConfigError}
    (h : c.presetTexts names = .error e) :
    ∃ name ∈ names, c.presets.get? name = none ∧ e = .unknownPreset name := by
  obtain ⟨before, name, after, rfl, -, hname⟩ := mapM_eq_error_iff.1 h
  split at hname
  · cases hname
  · next hnone => exact ⟨name, by simp, hnone, (Except.error.inj hname).symm⟩

section

variable [RealReading] {s : Selection} {c : Config} {fs : FileSystem} {failure : Failure}

theorem Selection.cases_of_build_error (h : (s.build c fs).result = .error failure) :
    (∃ name ∈ s.presets, c.presets.get? name = none ∧ failure = .config (.unknownPreset name)) ∨
      (∀ name ∈ s.presets, (c.presets.get? name).isSome) ∧ s.Fault c fs ∧
        failure.exitCode = FaultClass.expression.exitCode := by
  have hfault (hpresets : ∀ name ∈ s.presets, (c.presets.get? name).isSome) : s.Fault c fs := by
    by_contra hfault
    obtain ⟨f, m, hbuilt⟩ := (valid_iff.2 ⟨hpresets, hfault⟩).exists_build
    exact absurd (hbuilt.symm.trans h) (by simp)
  simp only [build, Logged.result_bind, Logged.result_ofExcept, Logged.mapError] at h
  obtain h | ⟨text, hcombine, h⟩ := cases_of_bind_eq_error h
  · obtain ⟨e, hcombine, rfl⟩ := mapError_eq_error_iff.1 h
    obtain htexts | ⟨texts, -, h⟩ := cases_of_bind_eq_error hcombine
    · obtain ⟨name, hname, hnone, rfl⟩ := Config.presetTexts_eq_error htexts
      exact .inl ⟨name, hname, hnone, rfl⟩
    · cases h
  have hpresets := Config.isSome_of_combine (mapError_eq_ok_iff.1 hcombine)
  refine .inr ⟨hpresets, hfault hpresets, ?_⟩
  obtain h | ⟨options, -, h⟩ := cases_of_bind_eq_error h
  · obtain ⟨e, hlists, rfl⟩ := mapError_eq_error_iff.1 h
    obtain h | ⟨excluded, -, h⟩ := cases_of_bind_eq_error hlists
    · obtain ⟨e, -, rfl⟩ := mapError_eq_error_iff.1 h
      rfl
    obtain h | ⟨included, -, h⟩ := cases_of_bind_eq_error h
    · obtain ⟨e, -, rfl⟩ := mapError_eq_error_iff.1 h
      rfl
    · cases h
  obtain h | ⟨f, -, h⟩ := cases_of_bind_eq_error h
  · obtain ⟨e, -, rfl⟩ := mapError_eq_error_iff.1 h
    rfl
  obtain h | ⟨m, -, h⟩ := cases_of_bind_eq_error h
  · obtain ⟨e, -, rfl⟩ := mapError_eq_error_iff.1 h
    rfl
  · cases h

end

/-! ## Configurations -/

namespace Config

theorem set_eq_error {c : Config} {key value : String} {e : ConfigError}
    (h : (c.set key value).result = .error e) :
    ConfigKey.read key = none ∧ e = .unknownKey key ∨
      ∃ name cause, ConfigKey.read key = some (.preset name) ∧ value ≠ "" ∧
        readFilter value = .error cause ∧ e = .invalidPreset name cause := by
  cases hkey : ConfigKey.read key with
  | none =>
    rw [set_of_not_read hkey] at h
    exact .inl ⟨rfl, (Except.error.inj h).symm⟩
  | some k =>
    rw [set_of_read hkey] at h
    cases k with
    | preset name =>
      rw [setKey] at h
      obtain ⟨-, hset⟩ | ⟨hvalue, ⟨-, hset⟩ | ⟨cause, hread, hset⟩⟩ := c.setPreset_cases name value
      · simp [hset] at h
      · simp [hset] at h
      · rw [hset] at h
        exact .inr ⟨name, cause, rfl, hvalue, hread, (Except.error.inj h).symm⟩
    | _ => cases h

theorem expression?_of_path {env : Environment} {given : Option Path} {e : ConfigError}
    (h : Config.path env given = .error e) : e.expression? = none := by
  unfold Config.path at h
  split at h
  · cases h
  split at h
  · cases h
  · obtain rfl := Except.error.inj h
    rfl

variable [RealReading] {c : Config} {fs : FileSystem} {path : Path} {e : ConfigError}

theorem expression?_of_load (h : load fs path = .error e) : e.expression? = none := by
  unfold load at h
  split at h
  · cases h
  split at h
  · obtain rfl := Except.error.inj h
    rfl
  · obtain ⟨fault, -, rfl⟩ := mapError_eq_error_iff.1 h
    rfl

theorem verify_of_load (hload : load fs path = .ok c) (hfile : fs.pathExists path = true) :
    verify fs path = .ok (c.problems fs) := by
  unfold load at hload
  rw [if_neg (by simp [hfile])] at hload
  unfold verify
  rw [if_neg (by simp [hfile])]
  split at hload
  · cases hload
  · rw [mapError_eq_ok_iff.1 hload]

theorem problems_eq_nil_iff (fs : FileSystem) (c : Config) :
    c.problems fs = [] ↔ ∀ p, ¬ Problem.Of c fs p := by
  rw [problems_eq, List.map_eq_nil_iff, List.eq_nil_iff_forall_not_mem]
  simp only [mem_report_iff]

end Config

theorem World.expression?_of_load [RealReading] {w : World} {given : Option Path} {e : ConfigError}
    (h : w.load given = .error e) : e.expression? = none := by
  obtain hpath | ⟨path, -, hrest⟩ := cases_of_bind_eq_error h
  · exact Config.expression?_of_path hpath
  · obtain hload | ⟨c, -, hrest⟩ := cases_of_bind_eq_error hrest
    · exact Config.expression?_of_load hload
    · cases hrest

/-! ## Passing elements -/

namespace Filter

variable {f : Filter} {m : Modifier} {s : Sink} {count : Bool}
  {passed : List (Except LineError Listen)} {x : Except LineError Listen}

theorem findSome?_of_checkable (h : ∀ x ∈ passed, f.Checkable x) :
    passed.findSome? f.stop? = none :=
  List.findSome?_eq_none_iff.2 fun x hx => stop?_eq_none_iff.2 (h x hx)

theorem Passes.findSome?_of_stop (hpassed : f.Passes m s count passed) {failure : Failure}
    (rest : List (Except LineError Listen)) (hx : f.stop? x = some failure) :
    (passed ++ x :: rest).findSome? f.stop? = some failure :=
  List.findSome?_eq_some_iff.2 ⟨passed, x, rest, rfl, hx,
    fun y hy => stop?_eq_none_iff.2 (hpassed.checkable y hy)⟩

theorem kept_append (h : ∀ x ∈ passed, f.Checkable x) (rest : List (Except LineError Listen)) :
    f.kept (passed ++ rest) = f.kept passed ++ f.kept rest := by
  have hpassed : ∀ x ∈ passed, (f.stop? x).isNone := fun x hx =>
    Option.isNone_iff_eq_none.2 (stop?_eq_none_iff.2 (h x hx))
  rw [kept, before, List.takeWhile_append_of_pos hpassed, List.filterMap_append, kept, kept, before,
    before, List.takeWhile_eq_self_iff.2 hpassed]

theorem Passes.nil : f.Passes m s count [] :=
  ⟨by simp, fun _ => by simp [kept, before, Sink.Writes]⟩

theorem kept_singleton (hx : f.Checkable x) : f.kept [x] = (f.kept? x).toList := by
  have hstop : (f.stop? x).isNone := Option.isNone_iff_eq_none.2 (stop?_eq_none_iff.2 hx)
  cases h : f.kept? x <;> simp [kept, before, hstop, h]

theorem Passes.concat (hpassed : f.Passes m s count passed) (hx : f.Checkable x)
    (hwritten : count = false → ∀ l ∈ f.kept? x,
      s.lineFault? (Listen.writeAll ((f.kept passed).map m.apply)) (m.apply l) = none) :
    f.Passes m s count (passed ++ [x]) := by
  refine ⟨fun y hy => ?_, fun hcount => ?_⟩
  · rcases List.mem_append.1 hy with hy | hy
    · exact hpassed.checkable y hy
    · obtain rfl := List.mem_singleton.1 hy
      exact hx
  · rw [kept_append hpassed.checkable, kept_singleton hx, List.map_append]
    cases hkept : f.kept? x with
    | none => simpa using hpassed.written hcount
    | some l => exact Sink.writes_concat (hpassed.written hcount) (hwritten hcount l hkept)

/-- A run either passes a whole stream or comes to an element that it cannot pass. -/
theorem passes_or_stops (f : Filter) (m : Modifier) (s : Sink) (count : Bool)
    (stream : List (Except LineError Listen)) :
    f.Passes m s count stream ∨ ∃ passed x rest, stream = passed ++ x :: rest ∧
      f.Passes m s count passed ∧ (¬ f.Checkable x ∨ count = false ∧ ∃ l warnings, x = .ok l ∧
        f.check l = .ok ⟨true, warnings⟩ ∧
        s.lineFault? (Listen.writeAll ((f.kept passed).map m.apply)) (m.apply l) ≠ none) := by
  induction stream using List.reverseRecOn with
  | nil => exact .inl .nil
  | append_singleton stream x ih =>
    obtain hpasses | ⟨passed, y, rest, rfl, hpassed, hstops⟩ := ih
    · by_cases hx : f.Checkable x
      · by_cases hwritten : count = false → ∀ l ∈ f.kept? x,
            s.lineFault? (Listen.writeAll ((f.kept stream).map m.apply)) (m.apply l) = none
        · exact .inl (hpasses.concat hx hwritten)
        · simp only [Classical.not_imp, not_forall] at hwritten
          obtain ⟨hcount, l, hkept, hfault⟩ := hwritten
          obtain ⟨rfl, warnings, hcheck⟩ := check_of_kept? hkept
          exact .inr ⟨stream, _, [], rfl, hpasses, .inr ⟨hcount, l, warnings, rfl, hcheck, hfault⟩⟩
      · exact .inr ⟨stream, x, [], rfl, hpasses, .inl hx⟩
    · exact .inr ⟨passed, y, rest ++ [x], by simp, hpassed, hstops⟩

end Filter

end ListenQuery

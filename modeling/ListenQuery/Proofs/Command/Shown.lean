import ListenQuery.Proofs.Command.Explain
import ListenQuery.Proofs.Command.Output
import ListenQuery.Proofs.Command.Pipe
import ListenQuery.Proofs.Listen.LineByLine
import ListenQuery.Proofs.Time.Shown

/-!
# What an explanation says of a filter

A bound that is shown is read back as that bound or not at all. Where nothing is shown, neither the
bounds nor conditions nor edits, the explanation says that every listen is kept unchanged. No listen
is changed then, but those are kept that lie strictly between the two default bounds.
-/

namespace ListenQuery

open Number

/-! ## Bounds -/

def Bound.label : Bound → String
  | .after => "after   "
  | .before => "before  "

def TimeRange.bound (r : TimeRange) : Bound → Timestamp
  | .after => r.min
  | .before => r.max

namespace Explanation

def bound (e : Explanation) : Bound → Option String
  | .after => e.after
  | .before => e.before

def shown (e : Explanation) : List String :=
  boundLine (Bound.label .after) e.after ++ boundLine (Bound.label .before) e.before ++
    e.conditions.map (fun c => "where   " ++ c.display) ++
    e.edits.map (fun edit => "set     " ++ edit.display)

def keepsEvery : String := "(keeps every listen unchanged)"

theorem lines_eq (e : Explanation) :
    e.lines = if e.shown.isEmpty then [keepsEvery] else e.shown := rfl

theorem bound_of (f : Filter) (m : Modifier) (side : Bound) :
    (of f m).bound side = boundText (TimeRange.default.bound side) (f.range.bound side) := by
  cases side <;> rfl

theorem mem_lines_of_bound {e : Explanation} {side : Bound} {text : String}
    (h : e.bound side = some text) : side.label ++ text ++ " (exclusive)" ∈ e.lines := by
  have hmem : side.label ++ text ++ " (exclusive)" ∈ e.shown := by
    cases side with
    | after =>
      have hafter : e.after = some text := h
      simp [shown, boundLine, hafter]
    | before =>
      have hbefore : e.before = some text := h
      simp [shown, boundLine, hbefore]
  rw [lines_eq, if_neg]
  · exact hmem
  · rw [List.isEmpty_iff]
    exact List.ne_nil_of_mem hmem

theorem mem_toJson_of_bound {e : Explanation} {side : Bound} {text : String}
    (h : e.bound side = some text) :
    ∃ members, e.toJson = .object members ∧ (side.name, .string text) ∈ members := by
  refine ⟨_, rfl, ?_⟩
  cases side with
  | after =>
    have hafter : e.after = some text := h
    simp [Bound.name, hafter, boundJson]
  | before =>
    have hbefore : e.before = some text := h
    simp [Bound.name, hbefore, boundJson]

open Timestamp in
/-- A bound that is not the default one is shown, in the lines and in the JSON, by a text that is
read as no other time. It is read as the bound if and only if the bound falls in a year of four
digits or in none of the years that dates are kept for. -/
theorem bound_reads_back (f : Filter) (m : Modifier) {side : Bound}
    (h : f.range.bound side ≠ TimeRange.default.bound side) :
    ∃ text d, (of f m).bound side = some text ∧
      side.label ++ text ++ " (exclusive)" ∈ (of f m).lines ∧
      (∃ members, (of f m).toJson = .object members ∧ (side.name, .string text) ∈ members) ∧
      (f.range.bound side).FallsOn d ∧
      (∀ t, Timestamp.read text = some t → t = f.range.bound side) ∧
      (Timestamp.read text = some (f.range.bound side) ↔
        0 ≤ d.year ∧ d.year ≤ 9999 ∨ ¬ (Date.firstYear ≤ d.year ∧ d.year ≤ Date.lastYear)) := by
  have hbound : (of f m).bound side = some (f.range.bound side).text := by
    rw [bound_of, boundText, if_neg h]
  exact ⟨_, _, hbound, mem_lines_of_bound hbound, mem_toJson_of_bound hbound, fallsOn_iff.2 rfl,
    fun t ht => eq_of_read_text ht, read_text_iff _⟩

theorem bound_reads_back_five_digits :
    let f : Filter := ⟨⟨-1, 253402300800⟩, []⟩
    f.range.bound .after ≠ TimeRange.default.bound .after ∧
      (of f ⟨[]⟩).bound .after = some "1969-12-31T23:59:59+00:00" ∧
      Timestamp.read "1969-12-31T23:59:59+00:00" = some (-1) ∧
      f.range.bound .before ≠ TimeRange.default.bound .before ∧
      (of f ⟨[]⟩).bound .before = some "+10000-01-01T00:00:00+00:00" ∧
      Timestamp.read "+10000-01-01T00:00:00+00:00" ≠ some 253402300800 := by
  intro f
  have hafter : f.range.bound .after ≠ TimeRange.default.bound .after := by decide
  have hbefore : f.range.bound .before ≠ TimeRange.default.bound .before := by decide
  have hshown : (of f ⟨[]⟩).bound .after = some "1969-12-31T23:59:59+00:00" := by decide +kernel
  have hshown' : (of f ⟨[]⟩).bound .before = some "+10000-01-01T00:00:00+00:00" := by
    decide +kernel
  obtain ⟨text, d, htext, -, -, hd, -, hread⟩ := bound_reads_back f ⟨[]⟩ hafter
  obtain ⟨text', d', htext', -, -, hd', -, hread'⟩ := bound_reads_back f ⟨[]⟩ hbefore
  obtain rfl := Option.some.inj (htext.symm.trans hshown)
  obtain rfl := Option.some.inj (htext'.symm.trans hshown')
  have hday : Timestamp.dateOf (f.range.bound .after) = ⟨1969, 12, 31⟩ := by decide +kernel
  have hday' : Timestamp.dateOf (f.range.bound .before) = ⟨10000, 1, 1⟩ := by decide +kernel
  obtain rfl := (Timestamp.fallsOn_iff.1 hd).symm.trans hday
  obtain rfl := (Timestamp.fallsOn_iff.1 hd').symm.trans hday'
  exact ⟨hafter, hshown, hread.2 (.inl (by decide)), hbefore, hshown', mt hread'.1 (by decide)⟩

/-! ## Nothing to show -/

theorem boundText_eq_none_iff {default t : Timestamp} :
    boundText default t = none ↔ t = default := by
  simp [boundText]

theorem shown_eq_nil_iff {f : Filter} {m : Modifier} :
    (of f m).shown = [] ↔ f = ⟨.default, []⟩ ∧ m = ⟨[]⟩ := by
  have hline (label : String) (bound : Option String) :
      boundLine label bound = [] ↔ bound = none := by
    cases bound <;> simp [boundLine]
  obtain ⟨⟨min, max⟩, conditions⟩ := f
  obtain ⟨edits⟩ := m
  simp only [shown, of, List.append_eq_nil_iff, hline, boundText_eq_none_iff, List.map_eq_nil_iff,
    Filter.mk.injEq, Modifier.mk.injEq, TimeRange.default, TimeRange.mk.injEq]

theorem utf8_of_mem_shown {e : Explanation} {line : String} (h : line ∈ e.shown) :
    ∃ b bs, utf8 line = b :: bs ∧ b ≠ 40 := by
  have hlabel {label : String} {b : UInt8} {bs : List UInt8} (hlabel : utf8 label = b :: bs)
      (hb : b ≠ 40) (text : String) : ∃ b bs, utf8 (label ++ text) = b :: bs ∧ b ≠ 40 :=
    ⟨b, bs ++ utf8 text, by rw [utf8_append, hlabel, List.cons_append], hb⟩
  have hbound {label : String} {bound : Option String} {b : UInt8} {bs : List UInt8}
      (hb : utf8 label = b :: bs) (hne : b ≠ 40) (h : line ∈ boundLine label bound) :
      ∃ b bs, utf8 line = b :: bs ∧ b ≠ 40 := by
    cases bound with
    | none => cases h
    | some text =>
      obtain rfl := List.mem_singleton.1 h
      rw [String.append_assoc]
      exact hlabel hb hne _
  simp only [shown, List.mem_append, List.mem_map] at h
  obtain ((hafter | hbefore) | ⟨c, -, rfl⟩) | ⟨edit, -, rfl⟩ := h
  · exact hbound (utf8_eq _) (by decide) hafter
  · exact hbound (utf8_eq _) (by decide) hbefore
  · exact hlabel (utf8_eq _) (by decide) _
  · exact hlabel (utf8_eq _) (by decide) _

/-- What shows something begins with a letter, so it is said only where nothing is shown. -/
theorem shown_eq_nil_of_isPrefix {e : Explanation}
    (h : utf8 (keepsEvery ++ "\n") <+: (e.texts false).flatMap utf8) : e.shown = [] := by
  by_contra hne
  obtain ⟨line, rest, hshown⟩ := List.exists_cons_of_ne_nil hne
  obtain ⟨b, bs, hline, hb⟩ := utf8_of_mem_shown (hshown ▸ List.mem_cons_self)
  have htexts : e.texts false = (line ++ "\n") :: rest.map (· ++ "\n") := by
    rw [texts, if_neg Bool.false_ne_true, lines_eq, hshown]
    rfl
  rw [htexts, List.flatMap_cons, utf8_append line, hline] at h
  exact hb (List.cons_prefix_cons.1 (utf8_eq _ ▸ h)).1.symm

end Explanation

/-! ## Running the filter that is explained -/

def Listen.IsBetweenDefaults (l : Listen) : Prop :=
  0 < l.listenedAt ∧ l.listenedAt < Int64.maxValue

instance (l : Listen) : Decidable l.IsBetweenDefaults := inferInstanceAs (Decidable (_ ∧ _))

theorem Filter.check_of_nil (r : TimeRange) (l : Listen) :
    Filter.check ⟨r, []⟩ l = .ok ⟨r.contains l.listenedAt, []⟩ := by
  cases hrange : r.contains l.listenedAt <;> simp [Filter.check, checkAll, hrange]

theorem Filter.kept_of_default (ls : List Listen) :
    (ls.map .ok).findSome? (Filter.stop? ⟨.default, []⟩) = none ∧
      Filter.kept ⟨.default, []⟩ (ls.map .ok) = ls.filter (·.IsBetweenDefaults) := by
  have hstop : (ls.map .ok).findSome? (Filter.stop? ⟨.default, []⟩) = none := by
    rw [List.findSome?_eq_none_iff, List.forall_mem_map]
    exact fun l _ => Filter.stop?_of_check (Filter.check_of_nil _ l)
  refine ⟨hstop, ?_⟩
  rw [Filter.kept_eq_filterMap hstop, List.filterMap_map, ← List.filterMap_eq_filter]
  refine List.filterMap_congr fun l _ => ?_
  have hcontains : TimeRange.default.contains l.listenedAt = decide l.IsBetweenDefaults :=
    (Bool.decide_and _ _).symm
  by_cases h : l.IsBetweenDefaults <;>
    simp [Filter.kept?, Filter.check_of_nil, hcontains, h, Option.guard]

theorem Outcome.Wrote.congr {w : World} {o o' : Outcome} {target : Option Place}
    {bytes : List UInt8} (hfiles : o.files = o'.files) (houtput : o.output = o'.output)
    (h : o.Wrote w target bytes) : o'.Wrote w target bytes := by
  cases h with
  | standard hsame =>
    rw [houtput]
    exact .standard (hfiles.symm.trans hsame)
  | file hsilent hplace hsame =>
    rw [hfiles] at hplace hsame
    exact .file (houtput.symm.trans hsilent) hplace hsame

theorem Outcome.Wrote.unique {w : World} {o : Outcome} {target : Option Place}
    {bytes bytes' : List UInt8} (h : o.Wrote w target bytes) (h' : o.Wrote w target bytes') :
    bytes = bytes' := by
  cases h with
  | standard =>
    cases h'
    rfl
  | file _ hplace =>
    cases h' with
    | file _ hplace' =>
      have hnode := Option.some.inj (hplace.symm.trans hplace')
      exact Node.file.inj hnode

theorem Listen.writeAll_filter_eq_iff {ls : List Listen} {keep : Listen → Bool} :
    writeAll (ls.filter keep) = writeAll ls ↔ ∀ l ∈ ls, keep l = true := by
  constructor
  · intro h
    have hlines := congrArg (List.length ∘ linesOf) h
    simp only [Function.comp_apply, linesOf_writeAll, List.length_map] at hlines
    exact List.length_filter_eq_length_iff.1 hlines
  · intro h
    rw [List.filter_eq_self.2 h]

section

variable [RealReading] {w : World} {configPath : Option Path} {verbosity : Nat} {s : Selection}

theorem Invocation.exists_of_keepsEvery
    (h : (Invocation.run ⟨configPath, verbosity, .explain s false⟩ w).output =
      utf8 (Explanation.keepsEvery ++ "\n")) :
    ∃ path c, w.load configPath = .ok (path, c) ∧
      (s.build c w.files).result = .ok (⟨.default, []⟩, ⟨[]⟩) := by
  have hsilent : [] ≠ utf8 (Explanation.keepsEvery ++ "\n") := by decide +kernel
  cases hload : w.load configPath with
  | error e =>
    simp only [Invocation.run, hload, World.fail] at h
    exact absurd h hsilent
  | ok loaded =>
    obtain ⟨path, c⟩ := loaded
    refine ⟨path, c, rfl, ?_⟩
    cases hbuilt : (s.build c w.files).result with
    | error e =>
      simp only [Invocation.run, hload, Command.run, withSelection, hbuilt, World.fail] at h
      exact absurd h hsilent
    | ok built =>
      obtain ⟨f, m⟩ := built
      obtain ⟨-, houtput, -⟩ := run_explain verbosity false hload hbuilt
      have hfirst := World.output_print_isPrefix w ((Explanation.of f m).texts false)
      rw [← houtput, h] at hfirst
      obtain ⟨rfl, rfl⟩ :=
        Explanation.shown_eq_nil_iff.1 (Explanation.shown_eq_nil_of_isPrefix hfirst)
      rfl

/-- Where it is said that every listen is kept unchanged, the filter with the same options succeeds
on a stream of listens if and only if those between the default bounds can be written, and then it
has written these unchanged and in order. They are all of them if and only if none has a time of
zero or less or the last time. -/
theorem run_filter_of_keepsEvery {verbosity' : Nat}
    (hsaid : (Invocation.run ⟨configPath, verbosity, .explain s false⟩ w).output =
      utf8 (Explanation.keepsEvery ++ "\n"))
    {input output : Option Path} {bytes : List UInt8} {source target : Option Place}
    (hin : w.Gives input bytes source) (hout : w.Directs output target)
    (hother : ∀ place ∈ source, target ≠ some place)
    {ls : List Listen} (hls : Listen.readAll bytes = ls.map .ok) :
    let o := Invocation.run ⟨configPath, verbosity', .filter input s output false⟩ w
    let between := ls.filter (·.IsBetweenDefaults)
    (o.failure = none ↔ (w.sink target).Writes [] between ∧
        (w.sink target).flush? (Listen.writeAll between) = none) ∧
      (o.failure = none → o.Wrote w target (Listen.writeAll between) ∧
        (o.Wrote w target (Listen.writeAll ls) ↔ ∀ l ∈ ls, l.IsBetweenDefaults)) := by
  intro o between
  obtain ⟨path, c, hload, hbuilt⟩ := Invocation.exists_of_keepsEvery hsaid
  let run := runFilter w ⟨.default, []⟩ ⟨[]⟩ input output false
  obtain ⟨hfiles, houtput, hfailure⟩ :
      o.files = run.files ∧ o.output = run.output ∧ o.failure = run.failure :=
    Invocation.run_filter hload hbuilt output false
  obtain ⟨hstop, hkept⟩ := Filter.kept_of_default ls
  obtain ⟨hrun, hwrote⟩ := runFilter_delivered hin hout hother ⟨.default, []⟩ ⟨[]⟩
  rw [hls, hkept, Modifier.map_apply_nil] at hrun hwrote
  have hsucceeds : o.failure = none ↔ (w.sink target).Writes [] between ∧
      (w.sink target).flush? (Listen.writeAll between) = none := by
    rw [show o.failure = _ from hfailure.trans hrun, Sink.writeLines_eq_none_iff]
    exact and_congr_right fun _ => and_iff_right hstop
  refine ⟨hsucceeds, fun hsuccess => ?_⟩
  obtain ⟨hwrites, hflush⟩ := hsucceeds.1 hsuccess
  rw [Sink.through_writeLines hwrites hflush] at hwrote
  have hfiltered := hwrote.congr hfiles.symm houtput.symm
  refine ⟨hfiltered, ?_⟩
  constructor
  · intro hall l hl
    have hkeep := Listen.writeAll_filter_eq_iff.1 (hfiltered.unique hall) l hl
    exact of_decide_eq_true hkeep
  · intro hall
    rwa [Listen.writeAll_filter_eq_iff.2 fun l hl => decide_eq_true (hall l hl)] at hfiltered

end

def zeroLine : String :=
  "\x7b\"listened_at\":0,\"track_metadata\":\x7b\"artist_name\":\"A\",\"track_name\":\"T\"\x7d\x7d"

theorem readAll_zeroLine :
    Listen.readAll (utf8Of zeroLine.toList ++ [10]) = [.ok (Listen.ofNames 0 "A" "T")] := by
  have hread : Listen.read zeroLine = .ok (Listen.ofNames 0 "A" "T") := rfl
  exact Listen.readAll_text (by decide) (by decide) hread

def nothingSelected : Selection := ⟨none, [], none, none, none, none, []⟩

theorem build_nothingSelected (fs : FileSystem) :
    (nothingSelected.build .default fs).result = .ok (⟨.default, []⟩, ⟨[]⟩) := rfl

def piped (bytes : List UInt8) : World := .ofFiles [] bytes

theorem load_piped (bytes : List UInt8) :
    (piped bytes).load none = .ok ("/home/.listen-filter/config.json", .default) := by
  have hpath : Config.path ⟨none, some "/home"⟩ none =
    .ok "/home/.listen-filter/config.json" := rfl
  have hempty : Config.load .empty "/home/.listen-filter/config.json" = .ok .default := rfl
  rw [World.load, show (piped bytes).environment = ⟨none, some "/home"⟩ from rfl, hpath, ok_bind,
    show (piped bytes).files = .empty from rfl, hempty]
  rfl

theorem explain_nothingSelected (bytes : List UInt8) :
    (Invocation.run ⟨none, 0, .explain nothingSelected false⟩ (piped bytes)).output =
      utf8 (Explanation.keepsEvery ++ "\n") := by
  obtain ⟨-, houtput, -⟩ :=
    Invocation.run_explain 0 false (load_piped bytes) (build_nothingSelected .empty)
  rw [houtput, World.print_of_prints (Sink.neverFails_whole.prints _ _)]
  exact List.flatMap_singleton utf8 _

theorem run_filter_of_keepsEvery_two :
    let w := piped (utf8Of zeroLine.toList ++ [10] ++ (utf8Of foundLine.toList ++ [10]))
    let o := Invocation.run ⟨none, 0, .filter none nothingSelected none false⟩ w
    (Invocation.run ⟨none, 0, .explain nothingSelected false⟩ w).output =
        utf8 (Explanation.keepsEvery ++ "\n") ∧
      Listen.readAll w.input = [Listen.ofNames 0 "A" "T", Listen.ofNames 5 "A" "T"].map .ok ∧
      o.failure = none ∧ o.Wrote w none (Listen.writeAll [Listen.ofNames 5 "A" "T"]) := by
  intro w o
  have hsaid := explain_nothingSelected w.input
  have hended : Listen.IsEnded (utf8Of zeroLine.toList ++ [10]) := .inr List.getLast?_concat
  have hls : Listen.readAll w.input =
      [Listen.ofNames 0 "A" "T", Listen.ofNames 5 "A" "T"].map .ok := by
    rw [show Listen.readAll w.input = _ from Listen.readAll_append hended _, readAll_zeroLine,
      readAll_foundLine]
    rfl
  have hin : w.Gives none w.input none := .standard rfl
  obtain ⟨hsucceeds, hwritten⟩ := run_filter_of_keepsEvery hsaid hin .standard nofun hls
  have hfailure : o.failure = none :=
    hsucceeds.2 ⟨Sink.neverFails_whole.writes _ _, Sink.neverFails_whole.flush _⟩
  obtain ⟨hwrote, -⟩ := hwritten hfailure
  have hfilter : [Listen.ofNames 0 "A" "T", Listen.ofNames 5 "A" "T"].filter
      (·.IsBetweenDefaults) = [Listen.ofNames 5 "A" "T"] := rfl
  exact ⟨hsaid, hls, hfailure, hfilter ▸ hwrote⟩

/-- It is said that every listen is kept, and a listen at zero is not. -/
theorem run_filter_not_keepsEvery :
    let w := piped (utf8Of zeroLine.toList ++ [10])
    let o := Invocation.run ⟨none, 0, .filter none nothingSelected none false⟩ w
    (Invocation.run ⟨none, 0, .explain nothingSelected false⟩ w).output =
        utf8 (Explanation.keepsEvery ++ "\n") ∧
      Listen.readAll w.input = [.ok (Listen.ofNames 0 "A" "T")] ∧ o.failure = none ∧
      o.output = [] ∧ o.output ≠ (Listen.ofNames 0 "A" "T").lineBytes := by
  intro w o
  have hopen : openSource w.files none = .ok .standard := rfl
  let run := runFilter w ⟨.default, []⟩ ⟨[]⟩ none none false
  obtain ⟨-, houtput, hfailure⟩ :
      o.files = run.files ∧ o.output = run.output ∧ o.failure = run.failure :=
    Invocation.run_filter (load_piped _) (build_nothingSelected w.files) none false
  obtain ⟨hrun, -, hwritten⟩ :=
    runFilter_printed_whole hopen Sink.neverFails_whole ⟨.default, []⟩ ⟨[]⟩
  obtain ⟨hstop, hkept⟩ := Filter.kept_of_default [Listen.ofNames 0 "A" "T"]
  have hstream : Source.standard.listens w = [Listen.ofNames 0 "A" "T"].map .ok := readAll_zeroLine
  rw [hstream] at hrun hwritten
  have hempty : o.output = [] := by
    rw [show o.output = _ from houtput, hwritten, hkept]
    rfl
  refine ⟨explain_nothingSelected _, readAll_zeroLine, hfailure.trans (hrun.trans hstop), hempty,
    ?_⟩
  rw [hempty, Listen.lineBytes_eq]
  simp

end ListenQuery

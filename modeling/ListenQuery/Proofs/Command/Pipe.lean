import ListenQuery.Proofs.Command.Filter
import ListenQuery.Proofs.Filter.Sequence

/-!
# Filters in a pipe

Running a filter and then another one on its output is running the filter with the conditions of
both. An element stops the joint filter if it stops the first, or if the first keeps its listen and
the second stops at it; the rest is that written listens are read back as they are.
-/

namespace ListenQuery

open Number

namespace Filter

variable {f g : Filter}

theorem eq_ok_of_kept? {x : Except LineError Listen} {l : Listen} (h : f.kept? x = some l) :
    x = .ok l ∧ f.stop? x = none := by
  obtain ⟨rfl, warnings, hcheck⟩ := check_of_kept? h
  exact ⟨rfl, stop?_of_check hcheck⟩

theorem kept?_and (hrange : f.range = g.range) (x : Except LineError Listen) :
    (f.and g).kept? x = (f.kept? x).bind fun l => g.kept? (.ok l) := by
  cases x with
  | error e => rfl
  | ok l =>
    have hand := check_and hrange l
    cases hf : f.check l with
    | error e =>
      have hjoint : (f.and g).check l = .error e := by rw [hand, hf]; rfl
      simp [kept?, hf, hjoint]
    | ok v =>
      obtain ⟨accepted, warnings⟩ := v
      cases accepted with
      | false => simp [kept?, hf, hand, Verdict.followedBy]
      | true =>
        cases hg : g.check l with
        | error e => simp [kept?, hf, hg, hand, Verdict.followedBy]
        | ok w =>
          obtain ⟨accepted, warnings'⟩ := w
          cases accepted <;> simp [kept?, hf, hg, hand, Verdict.followedBy]

theorem stop?_and_eq_none_iff (hrange : f.range = g.range) (x : Except LineError Listen) :
    (f.and g).stop? x = none ↔ f.stop? x = none ∧ ∀ l ∈ f.kept? x, g.stop? (.ok l) = none := by
  cases x with
  | error e => simp [stop?]
  | ok l =>
    have hand := check_and hrange l
    cases hf : f.check l with
    | error e =>
      have hjoint : (f.and g).check l = .error e := by rw [hand, hf]; rfl
      simp [stop?, hf, hjoint]
    | ok v =>
      obtain ⟨accepted, warnings⟩ := v
      cases accepted with
      | false => simp [stop?, kept?, hf, hand, Verdict.followedBy]
      | true => cases hg : g.check l <;> simp [stop?, kept?, hf, hg, hand, Verdict.followedBy]

section

variable {stream : List (Except LineError Listen)}

theorem kept_eq_filterMap (h : stream.findSome? f.stop? = none) :
    f.kept stream = stream.filterMap f.kept? := by
  rw [kept, before_eq_self h]

theorem findSome?_and (hrange : f.range = g.range) (stream : List (Except LineError Listen)) :
    stream.findSome? (f.and g).stop? = none ↔
      stream.findSome? f.stop? = none ∧ ((f.kept stream).map .ok).findSome? g.stop? = none := by
  simp only [List.findSome?_eq_none_iff, stop?_and_eq_none_iff hrange, forall_and,
    List.forall_mem_map]
  refine and_congr_right fun hstop => ?_
  rw [kept_eq_filterMap (List.findSome?_eq_none_iff.2 hstop)]
  constructor
  · intro h l hl
    obtain ⟨x, hx, hkept⟩ := List.mem_filterMap.1 hl
    exact h x hx l hkept
  · intro h x hx l hkept
    exact h l (List.mem_filterMap.2 ⟨x, hx, hkept⟩)

theorem kept_and (hrange : f.range = g.range)
    (h : stream.findSome? (f.and g).stop? = none) :
    (f.and g).kept stream = g.kept ((f.kept stream).map .ok) := by
  obtain ⟨hf, hg⟩ := (findSome?_and hrange stream).1 h
  rw [kept_eq_filterMap h, kept_eq_filterMap hg, kept_eq_filterMap hf, List.filterMap_map,
    List.filterMap_filterMap]
  exact List.filterMap_congr fun x _ => kept?_and hrange x

theorem exists_mem_of_mem_kept {l : Listen} (h : l ∈ f.kept stream) :
    .ok l ∈ stream ∧ f.kept? (.ok l) = some l := by
  obtain ⟨x, hx, hkept⟩ := List.mem_filterMap.1 h
  obtain ⟨rfl, -⟩ := eq_ok_of_kept? hkept
  exact ⟨(List.takeWhile_sublist _).subset hx, hkept⟩

theorem kept_kept (f : Filter) (stream : List (Except LineError Listen)) :
    ((f.kept stream).map .ok).findSome? f.stop? = none ∧
    f.kept ((f.kept stream).map .ok) = f.kept stream := by
  have hkept : ∀ l ∈ f.kept stream, f.kept? (.ok l) = some l := fun l hl =>
    (exists_mem_of_mem_kept hl).2
  have hstop : ((f.kept stream).map .ok).findSome? f.stop? = none := by
    rw [List.findSome?_eq_none_iff, List.forall_mem_map]
    exact fun l hl => (eq_ok_of_kept? (hkept l hl)).2
  refine ⟨hstop, ?_⟩
  rw [kept_eq_filterMap hstop, List.filterMap_map]
  exact (List.filterMap_congr hkept).trans List.filterMap_some

end

end Filter

section

variable [RealReading] {w : World} {input : Option Path} {opened : Source}

theorem Source.readable_of_mem_listens {l : Listen} (h : .ok l ∈ opened.listens w) :
    l.Readable Listen.infoDepth := by
  cases opened with
  | standard => exact Listen.readable_of_mem_readAll h
  | file place =>
    simp only [Source.listens] at h
    split at h
    · exact Listen.readable_of_mem_readAll h
    · cases h
  | directory => simp [Source.listens] at h

theorem readAll_output (hnearest : RealReading.IsNearest) (hwhole : w.output.NeverFails)
    (hopen : openSource w.files input = .ok opened) (f : Filter) :
    Listen.readAll (runFilter w f ⟨[]⟩ input none false).output =
      (f.kept (opened.listens w)).map .ok := by
  rw [(runFilter_printed_whole hopen hwhole f ⟨[]⟩).2.2, Modifier.map_apply_nil]
  refine Listen.readAll_writeAll_of_readable hnearest fun l hl => ?_
  exact Source.readable_of_mem_listens (Filter.exists_mem_of_mem_kept hl).1

/-- Two filters of one range in a pipe succeed exactly if one run with the conditions of both does,
and then the pipe prints the same bytes, whether or not its output can be written. A filter in a
pipe after itself changes no byte. -/
theorem runFilter_pipe (hnearest : RealReading.IsNearest) (w : World) (input : Option Path)
    {f g : Filter} (hrange : f.range = g.range) :
    let first := runFilter { w with output := .whole } f ⟨[]⟩ input none false
    let piped := { w with files := first.files, input := first.output }
    let second := runFilter piped g ⟨[]⟩ none none false
    let joint := runFilter w ⟨f.range, f.conditions ++ g.conditions⟩ ⟨[]⟩ input none false
    let again := runFilter { piped with output := .whole } f ⟨[]⟩ none none false
    (first.failure = none ∧ second.failure = none ↔ joint.failure = none) ∧
      (joint.failure = none → second.output = joint.output) ∧
      (first.failure = none → again.failure = none ∧ again.output = first.output) := by
  intro first piped second joint again
  cases hopen : openSource w.files input with
  | error e =>
    have hfirst : first.failure ≠ none := by simp [first, runFilter, hopen, World.fail]
    have hjoint : joint.failure ≠ none := by simp [joint, runFilter, hopen, World.fail]
    simp [hfirst, hjoint]
  | ok opened =>
    let w' := { w with output := .whole }
    have hwhole : w'.output.NeverFails := Sink.neverFails_whole
    have hpiped : Source.listens piped .standard = (f.kept (opened.listens w)).map .ok :=
      readAll_output (w := w') hnearest hwhole hopen f
    obtain ⟨hfirst, -, hprinted⟩ := runFilter_printed_whole (w := w') hopen hwhole f ⟨[]⟩
    obtain ⟨hjoint, -, hprinted'⟩ := runFilter_printed hopen (f.and g) ⟨[]⟩
    have hstandard : openSource piped.files none = .ok .standard := rfl
    obtain ⟨hsecond, -, hwritten⟩ := runFilter_printed hstandard g ⟨[]⟩
    obtain ⟨hagain, -, hrewritten⟩ :=
      runFilter_printed_whole (w := { piped with output := .whole }) hstandard hwhole f ⟨[]⟩
    have hfirst : first.failure = (opened.listens w).findSome? f.stop? := hfirst
    rw [hpiped] at hsecond hwritten
    rw [show Source.listens { piped with output := .whole } .standard = _ from hpiped]
      at hagain hrewritten
    rw [Modifier.map_apply_nil] at hprinted hrewritten
    obtain ⟨hstop, hkept⟩ := f.kept_kept (opened.listens w)
    have hboth := Filter.findSome?_and hrange (opened.listens w)
    -- the joint filter and the second one write the same unless something stops the joint one
    have hsame (h : (opened.listens w).findSome? (f.and g).stop? = none) :
        second.failure = joint.failure ∧ second.output = joint.output := by
      rw [Filter.kept_and hrange h] at hjoint hprinted'
      rw [show second.failure = _ from hsecond, show joint.failure = _ from hjoint, h,
        (hboth.1 h).2, show second.output = _ from hwritten, show joint.output = _ from hprinted']
      exact ⟨rfl, rfl⟩
    have hunstopped (h : joint.failure = none) :
        (opened.listens w).findSome? (f.and g).stop? = none :=
      (Sink.writeLines_eq_none_iff.1 (hjoint.symm.trans h)).2.1
    refine ⟨⟨fun h => ?_, fun h => ?_⟩, fun h => (hsame (hunstopped h)).2,
      fun _ => ⟨hagain.trans hstop, ?_⟩⟩
    · obtain ⟨h, h'⟩ := h
      have hstop' := (Sink.writeLines_eq_none_iff.1 (hsecond.symm.trans h')).2.1
      rw [← (hsame (hboth.2 ⟨hfirst.symm.trans h, hstop'⟩)).1]
      exact h'
    · refine ⟨hfirst.trans (hboth.1 (hunstopped h)).1, ?_⟩
      rw [(hsame (hunstopped h)).1]
      exact h
    · rw [show again.output = _ from hrewritten, hkept]
      exact hprinted.symm

end

theorem runFilter_pipe_sample :
    let _ := Listen.nearestReading
    let w :=
      World.ofFiles [] (Listen.writeAll [Listen.sample.set "release_name" "y", Listen.sample])
    let f : Filter := ⟨.default, [⟨"release_name", .xor, .literal "yes"⟩]⟩
    let g : Filter := ⟨.default, [⟨"track_name", .xor, .literal ""⟩]⟩
    let first := runFilter w f ⟨[]⟩ none none false
    let piped := { w with files := first.files, input := first.output }
    let second := runFilter piped g ⟨[]⟩ none none false
    let joint := runFilter w ⟨f.range, f.conditions ++ g.conditions⟩ ⟨[]⟩ none none false
    let again := runFilter piped f ⟨[]⟩ none none false
    f.range = g.range ∧ (first.failure = none ∧ second.failure = none) ∧ joint.failure = none ∧
      joint.output = Listen.sample.lineBytes ∧ second.output = joint.output ∧
      again.failure = none ∧ again.output = first.output := by
  intro _ w f g
  have hnearest : RealReading.IsNearest := Listen.isNearest_nearestReading
  have hreadable : ∀ l ∈ [Listen.sample.set "release_name" "y", Listen.sample],
      l.Readable Listen.infoDepth :=
    List.forall_mem_cons.2 ⟨Listen.readable_sample.set _ _,
      List.forall_mem_singleton.2 Listen.readable_sample⟩
  have hstream : Listen.readAll w.input =
      [.ok (Listen.sample.set "release_name" "y"), .ok Listen.sample] :=
    Listen.readAll_writeAll_of_readable hnearest hreadable
  have hopen : openSource w.files none = .ok .standard := rfl
  have hdrop : Filter.check ⟨f.range, f.conditions ++ g.conditions⟩
      (Listen.sample.set "release_name" "y") = .ok ⟨false, []⟩ := by decide +kernel
  have hkeep : Filter.check ⟨f.range, f.conditions ++ g.conditions⟩ Listen.sample =
      .ok ⟨true, []⟩ := by decide +kernel
  obtain ⟨hjoint, -, hwritten⟩ := runFilter_printed_whole hopen Sink.neverFails_whole
    ⟨f.range, f.conditions ++ g.conditions⟩ ⟨[]⟩
  have hstop : (Source.standard.listens w).findSome?
      (Filter.stop? ⟨f.range, f.conditions ++ g.conditions⟩) = none := by
    rw [Source.listens, hstream]
    simp [Filter.stop?, hdrop, hkeep]
  have hkept : Listen.writeAll ((Filter.kept ⟨f.range, f.conditions ++ g.conditions⟩
      (Source.standard.listens w)).map (Modifier.apply ⟨[]⟩)) = Listen.sample.lineBytes := by
    rw [Modifier.map_apply_nil, Source.listens, hstream]
    simp [Filter.kept, Filter.before, Filter.stop?, Filter.kept?, hdrop, hkeep, Listen.writeAll]
  rw [hstop] at hjoint
  rw [hkept] at hwritten
  obtain ⟨hiff, hsame, hagain⟩ :=
    runFilter_pipe hnearest w none (show f.range = g.range from rfl)
  have hwhole (v : World) (h : v.output = .whole) : { v with output := .whole } = v := by
    rw [← h]
  rw [hwhole w rfl] at hiff hsame hagain
  rw [hwhole ⟨_, _, _, w.output, _⟩ rfl] at hagain
  have hboth := hiff.2 hjoint
  exact ⟨rfl, hboth, hjoint, hwritten, hsame hjoint, hagain hboth.1⟩

end ListenQuery

import ListenQuery.Command.Run
import ListenQuery.Proofs.Files.Sink
import ListenQuery.Proofs.Listen.Lines

/-!
# Texts and lines given to a sink

Texts are printed up to the first that cannot be printed, and lines are written up to the first that
cannot be written. A sink has then been given a first part of them, and all of them if there is no
such text or line.
-/

namespace ListenQuery

open Number

theorem utf8_eq (text : String) : utf8 text = utf8Of text.toList := toList_toUTF8 text

theorem utf8_append (text more : String) : utf8 (text ++ more) = utf8 text ++ utf8 more := by
  simp only [utf8_eq, String.toList_append, utf8Of, List.flatMap_append]

theorem utf8_injective : Function.Injective utf8 := by
  intro text text' h
  have hdecode := congrArg Listen.decodeUtf8 h
  simp only [utf8_eq, decodeUtf8_utf8Of, Option.some.injEq] at hdecode
  exact hdecode

theorem utf8_join (texts : List String) : utf8 (String.join texts) = texts.flatMap utf8 := by
  have hutf8 : utf8 = fun text => utf8Of text.toList := funext utf8_eq
  rw [utf8_eq, String.toList_join, utf8Of, List.flatMap_assoc, hutf8]
  rfl

theorem Listen.lineBytes_eq_utf8 (l : Listen) : l.lineBytes = utf8 l.line ++ [10] := by
  rw [lineBytes_eq, utf8_eq]

theorem forall_split_cons {α : Type} {P : List α → α → Prop} {x : α} {xs : List α} :
    (∀ before y after, x :: xs = before ++ y :: after → P before y) ↔
      P [] x ∧ ∀ before y after, xs = before ++ y :: after → P (x :: before) y := by
  constructor
  · intro h
    refine ⟨h [] x xs rfl, fun before y after hxs => h (x :: before) y after ?_⟩
    rw [hxs, List.cons_append]
  · rintro ⟨hfirst, hrest⟩ before y after hsplit
    cases before with
    | nil =>
      obtain ⟨rfl, -⟩ := List.cons.inj hsplit
      exact hfirst
    | cons first before =>
      obtain ⟨rfl, htail⟩ := List.cons.inj hsplit
      exact hrest before y after htail

namespace Sink

variable {s : Sink} {given : List UInt8} {texts : List String} {ls : List Listen}

/-! ## Texts -/

/-- No text is one that cannot be printed behind those before it. -/
def Prints (s : Sink) (given : List UInt8) (texts : List String) : Prop :=
  ∀ printed text rest, texts = printed ++ text :: rest →
    s.fault? (given ++ (printed ++ [text]).flatMap utf8) = none

theorem prints_cons {text : String} :
    s.Prints given (text :: texts) ↔
      s.fault? (given ++ utf8 text) = none ∧ s.Prints (given ++ utf8 text) texts := by
  rw [Prints, forall_split_cons]
  simp [Prints]

theorem print_cons_of_fault {text : String} {e : FileError}
    (h : s.fault? (given ++ utf8 text) = some e) :
    s.print given (text :: texts) = (given ++ utf8 text, some e) := by simp [print, h]

theorem print_cons {text : String} (h : s.fault? (given ++ utf8 text) = none) :
    s.print given (text :: texts) = s.print (given ++ utf8 text) texts := by simp [print, h]

theorem print_spec (s : Sink) (given : List UInt8) (texts : List String) :
    (s.print given texts).1 <+: given ++ texts.flatMap utf8 ∧
      (s.Prints given texts → s.print given texts = (given ++ texts.flatMap utf8, none)) ∧
      (¬ s.Prints given texts → ∃ e, (s.print given texts).2 = some e) := by
  induction texts generalizing given with
  | nil => exact ⟨by simp [print], fun _ => by simp [print], fun h => absurd (by simp [Prints]) h⟩
  | cons text rest ih =>
    rw [prints_cons, List.flatMap_cons, ← List.append_assoc]
    cases h : s.fault? (given ++ utf8 text) with
    | some e =>
      rw [print_cons_of_fault h]
      exact ⟨List.prefix_append _ _, by simp, fun _ => ⟨e, rfl⟩⟩
    | none =>
      rw [print_cons h]
      obtain ⟨hfirst, hall, hfails⟩ := ih (given ++ utf8 text)
      exact ⟨hfirst, fun hprints => hall hprints.2, fun hnot => hfails fun hrest =>
        hnot ⟨rfl, hrest⟩⟩

theorem NeverFails.prints (h : s.NeverFails) (given : List UInt8) (texts : List String) :
    s.Prints given texts := fun _ _ _ _ => h.fault? _

theorem through_print (h : s.Prints [] texts) :
    s.through (s.print [] texts).1 = texts.flatMap utf8 := by
  rw [(s.print_spec [] texts).2.1 h, List.nil_append]
  rcases texts.eq_nil_or_concat with rfl | ⟨printed, text, rfl⟩
  · exact through_nil
  · rw [List.concat_eq_append] at h ⊢
    exact through_of_fault? (h printed text [] rfl)

/-! ## Lines -/

def writeLines (s : Sink) (given : List UInt8) : List Listen → List UInt8 × Option Failure
  | [] => ([], none)
  | l :: rest =>
    match s.lineFault? given l with
    | some (written, failure) => (written, some failure)
    | none =>
      let more := s.writeLines (given ++ l.lineBytes) rest
      (l.lineBytes ++ more.1, more.2)

/-- No listen is one whose line cannot be written behind those before it. -/
def Writes (s : Sink) (given : List UInt8) (ls : List Listen) : Prop :=
  ∀ done l rest, ls = done ++ l :: rest →
    s.lineFault? (given ++ Listen.writeAll done) l = none

theorem writes_cons {l : Listen} :
    s.Writes given (l :: ls) ↔
      s.lineFault? given l = none ∧ s.Writes (given ++ l.lineBytes) ls := by
  rw [Writes, forall_split_cons]
  simp [Writes, Listen.writeAll]

theorem Writes.of_append {more : List Listen} (h : s.Writes given (ls ++ more)) :
    s.Writes given ls := by
  intro done l rest hls
  exact h done l (rest ++ more) (by rw [hls, List.append_assoc, List.cons_append])

theorem writes_concat {l : Listen} (h : s.Writes given ls)
    (hlast : s.lineFault? (given ++ Listen.writeAll ls) l = none) :
    s.Writes given (ls ++ [l]) := by
  intro done next rest hls
  rcases rest.eq_nil_or_concat with rfl | ⟨rest, last, rfl⟩
  · obtain ⟨rfl, heq⟩ := List.append_inj' hls rfl
    obtain rfl := (List.cons.inj heq).1
    exact hlast
  · rw [List.concat_eq_append, ← List.cons_append, ← List.append_assoc] at hls
    exact h done next rest (List.append_inj' hls rfl).1

theorem lineFault?_spec {l : Listen} {written : List UInt8} {failure : Failure}
    (h : s.lineFault? given l = some (written, failure)) :
    written <+: l.lineBytes ∧ failure.exitCode = 1 := by
  unfold lineFault? at h
  split at h
  · obtain ⟨rfl, rfl⟩ := Prod.mk.inj (Option.some.inj h)
    rw [Listen.lineBytes_eq_utf8]
    exact ⟨List.prefix_append _ _, rfl⟩
  · obtain ⟨e, -, heq⟩ := Option.map_eq_some_iff.1 h
    obtain ⟨rfl, rfl⟩ := Prod.mk.inj heq
    exact ⟨List.prefix_refl _, rfl⟩

theorem NeverFails.lineFault? (h : s.NeverFails) (given : List UInt8) (l : Listen) :
    s.lineFault? given l = none := by simp [Sink.lineFault?, h.write]

theorem NeverFails.writes (h : s.NeverFails) (given : List UInt8) (ls : List Listen) :
    s.Writes given ls := fun _ _ _ _ => h.lineFault? _ _

theorem writeLines_cons_of_fault {l : Listen} {written : List UInt8} {failure : Failure}
    (h : s.lineFault? given l = some (written, failure)) :
    s.writeLines given (l :: ls) = (written, some failure) := by simp [writeLines, h]

theorem writeLines_cons {l : Listen} (h : s.lineFault? given l = none) :
    s.writeLines given (l :: ls) =
      (l.lineBytes ++ (s.writeLines (given ++ l.lineBytes) ls).1,
        (s.writeLines (given ++ l.lineBytes) ls).2) := by simp [writeLines, h]

/-- What has been written is a first part of all lines, and all of them if there is no failure. -/
theorem writeLines_spec (s : Sink) (given : List UInt8) (ls : List Listen) :
    (s.writeLines given ls).1 <+: Listen.writeAll ls ∧
      (s.Writes given ls → s.writeLines given ls = (Listen.writeAll ls, none)) ∧
      (¬ s.Writes given ls → ∃ failure,
        (s.writeLines given ls).2 = some failure ∧ failure.exitCode = 1) := by
  induction ls generalizing given with
  | nil => exact ⟨List.prefix_refl _, fun _ => rfl, fun h => absurd (by simp [Writes]) h⟩
  | cons l ls ih =>
    rw [writes_cons, Listen.writeAll, List.flatMap_cons, ← Listen.writeAll]
    cases h : s.lineFault? given l with
    | some fault =>
      obtain ⟨written, failure⟩ := fault
      obtain ⟨hwritten, hexit⟩ := lineFault?_spec h
      rw [writeLines_cons_of_fault h]
      exact ⟨hwritten.trans (List.prefix_append _ _), by simp, fun _ => ⟨failure, rfl, hexit⟩⟩
    | none =>
      obtain ⟨hfirst, hall, hfails⟩ := ih (given ++ l.lineBytes)
      rw [writeLines_cons h]
      refine ⟨(List.prefix_append_right_inj _).2 hfirst, fun hwrites => ?_, fun hnot => ?_⟩
      · rw [hall hwrites.2]
      · exact hfails fun hwrites => hnot ⟨rfl, hwrites⟩

theorem writeLines_eq_none_iff {stop : Option Failure} :
    ((s.writeLines [] ls).2.or stop).or ((s.flush? (s.writeLines [] ls).1).map .unwritten) = none ↔
      s.Writes [] ls ∧ stop = none ∧ s.flush? (Listen.writeAll ls) = none := by
  obtain ⟨-, hall, hfails⟩ := s.writeLines_spec [] ls
  constructor
  · intro h
    obtain ⟨hdone, hflush⟩ := Option.or_eq_none_iff.1 h
    obtain ⟨hlines, hstop⟩ := Option.or_eq_none_iff.1 hdone
    have hwrites : s.Writes [] ls := by
      by_contra hnot
      obtain ⟨failure, hfailure, -⟩ := hfails hnot
      simp [hlines] at hfailure
    rw [hall hwrites] at hflush
    exact ⟨hwrites, hstop, Option.map_eq_none_iff.1 hflush⟩
  · rintro ⟨hwrites, rfl, hflush⟩
    rw [hall hwrites, hflush]
    rfl

theorem through_writeLines (hwrites : s.Writes [] ls)
    (hflush : s.flush? (Listen.writeAll ls) = none) :
    s.through (s.writeLines [] ls).1 = Listen.writeAll ls := by
  rw [(s.writeLines_spec [] ls).2.1 hwrites]
  exact s.through_eq hflush

theorem NeverFails.writeLines (h : s.NeverFails) (given : List UInt8) (ls : List Listen) :
    s.writeLines given ls = (Listen.writeAll ls, none) :=
  (s.writeLines_spec given ls).2.1 (h.writes given ls)

end Sink

namespace World

def ofFiles (entries : List (Place × Node)) (input : List UInt8) : World :=
  ⟨⟨entries, fun _ => .whole⟩, ⟨none, some "/home"⟩, input, .whole, fun _ => ""⟩

variable {w : World} {texts : List String}

theorem print_of_prints (h : w.output.Prints [] texts) :
    w.print texts = ⟨w.files, texts.flatMap utf8, [], none⟩ := by
  rw [World.print, Sink.through_print h, (w.output.print_spec [] texts).2.1 h]
  rfl

theorem failure_print_of_not_prints (h : ¬ w.output.Prints [] texts) :
    ∃ e, (w.print texts).failure = some (.unprinted e) := by
  obtain ⟨e, he⟩ := (w.output.print_spec [] texts).2.2 h
  exact ⟨e, by rw [World.print, he]; rfl⟩

theorem prints_of_failure_print (h : (w.print texts).failure = none) :
    w.output.Prints [] texts := by
  by_contra hnot
  obtain ⟨e, he⟩ := failure_print_of_not_prints hnot
  simp [h] at he

theorem output_print_isPrefix (w : World) (texts : List String) :
    (w.print texts).output <+: texts.flatMap utf8 :=
  (w.output.through_isPrefix _).trans (w.output.print_spec [] texts).1

end World

end ListenQuery

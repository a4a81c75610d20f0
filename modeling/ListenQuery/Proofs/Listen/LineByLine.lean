import ListenQuery.Proofs.Listen.RoundTrip

/-!
# Streams read line by line

Bytes are cut into lines in one way only. Each line gives nothing, a listen or an error by its
content alone, and an error has the number of its line. So what follows a newline is read as if
nothing stood before it, but for the numbers, and no line makes a difference to another one.
-/

namespace ListenQuery

open Number

/-- The error of a line in front of which as many more lines stand. -/
def LineError.after (before : Nat) (e : LineError) : LineError :=
  { e with number := e.number + before }

namespace Listen

/-- The contents of the lines of a stream. A line is cut off behind its newline, and a return right
before that is no part of its content. The last line may have no newline. -/
inductive Cut : List UInt8 → List (List UInt8) → Prop
  | nil : Cut [] []
  | unended {content : List UInt8} (hline : 10 ∉ content) (hne : content ≠ []) :
    Cut content [content]
  | newline {content rest : List UInt8} {contents : List (List UInt8)} (hline : 10 ∉ content)
    (hreturn : content.getLast? ≠ some 13) (hrest : Cut rest contents) :
    Cut (content ++ 10 :: rest) (content :: contents)
  | returned {content rest : List UInt8} {contents : List (List UInt8)} (hline : 10 ∉ content)
    (hrest : Cut rest contents) : Cut (content ++ 13 :: 10 :: rest) (content :: contents)

/-- The bytes in front of which nothing of a line is left open. -/
def IsEnded (bytes : List UInt8) : Prop := bytes = [] ∨ bytes.getLast? = some 10

section

variable {bytes rest content : List UInt8} {contents : List (List UInt8)}

/-! ## Lines -/

theorem linesOf_ne_nil (h : bytes ≠ []) : linesOf bytes ≠ [] := by
  intro hnil
  exact h (by rw [← flatten_linesOf bytes, hnil, List.flatten_nil])

theorem linesOf_unended (hline : 10 ∉ content) (hne : content ≠ []) :
    linesOf content = [content] := by
  induction content with
  | nil => exact absurd rfl hne
  | cons b content ih =>
    obtain ⟨hb, hline⟩ := not_or.1 (List.mem_cons.not.1 hline)
    rw [linesOf_cons]
    rcases eq_or_ne content [] with rfl | hcontent
    · simp [linesOf, addToLine, Ne.symm hb]
    · simp [ih hline hcontent, addToLine, Ne.symm hb]

theorem addToLine_append {lines : List (List UInt8)} (h : lines ≠ []) (b : UInt8)
    (more : List (List UInt8)) : addToLine b (lines ++ more) = addToLine b lines ++ more := by
  obtain ⟨line, lines, rfl⟩ := List.exists_cons_of_ne_nil h
  unfold addToLine
  split <;> rfl

theorem linesOf_append (h : IsEnded bytes) (rest : List UInt8) :
    linesOf (bytes ++ rest) = linesOf bytes ++ linesOf rest := by
  induction bytes with
  | nil => rfl
  | cons b bytes ih =>
    have hlast : (b :: bytes).getLast? = some 10 := h.resolve_left (List.cons_ne_nil b bytes)
    rw [List.cons_append, linesOf_cons, linesOf_cons]
    rcases eq_or_ne bytes [] with rfl | hne
    · obtain rfl : b = 10 := by simpa using hlast
      rfl
    · have hended : IsEnded bytes := .inr (by rwa [List.getLast?_cons_of_ne_nil hne] at hlast)
      rw [ih hended, addToLine_append (linesOf_ne_nil hne)]

theorem stripEnd_returned (content : List UInt8) : stripEnd (content ++ [13, 10]) = content := by
  have hline : content ++ [13, 10] = content ++ [13] ++ [10] := by simp
  rw [hline, stripEnd, List.getLast?_concat, if_pos rfl, List.dropLast_concat]
  simp

theorem stripEnd_unended (hline : 10 ∉ content) : stripEnd content = content :=
  if_neg fun hlast => hline (List.mem_of_getLast? hlast)

theorem Cut.contents_eq (h : Cut bytes contents) : contents = (linesOf bytes).map stripEnd := by
  induction h with
  | nil => rfl
  | unended hline hne =>
    rw [linesOf_unended hline hne, List.map_singleton, stripEnd_unended hline]
  | newline hline hreturn _ ih =>
    rw [linesOf_line hline, List.map_cons, stripEnd_newline hreturn, ih]
  | @returned content rest _ hline _ ih =>
    have hreturn : 10 ∉ content ++ [13] := by simp [hline]
    have hbytes : content ++ 13 :: 10 :: rest = content ++ [13] ++ 10 :: rest := by simp
    rw [hbytes, linesOf_line hreturn, List.map_cons, List.append_assoc, List.singleton_append,
      stripEnd_returned, ih]

theorem exists_cut (bytes : List UInt8) : ∃ contents, Cut bytes contents := by
  induction hlength : bytes.length using Nat.strong_induction_on generalizing bytes with
  | _ n ih =>
    by_cases hmem : 10 ∈ bytes
    · obtain ⟨line, rest, rfl, hline⟩ := List.eq_append_cons_of_mem hmem
      have hshorter : rest.length < n := by
        rw [← hlength, List.length_append, List.length_cons]
        omega
      obtain ⟨contents, hrest⟩ := ih _ hshorter rest rfl
      by_cases hreturn : line.getLast? = some 13
      · obtain ⟨content, rfl⟩ := List.getLast?_eq_some_iff.1 hreturn
        rw [List.append_assoc, List.singleton_append]
        exact ⟨_, .returned (fun h => hline (List.mem_append_left _ h)) hrest⟩
      · exact ⟨_, .newline hline hreturn hrest⟩
    · rcases eq_or_ne bytes [] with rfl | hne
      · exact ⟨_, .nil⟩
      · exact ⟨_, .unended hmem hne⟩

theorem cut_iff : Cut bytes contents ↔ contents = (linesOf bytes).map stripEnd := by
  constructor
  · exact Cut.contents_eq
  · rintro rfl
    obtain ⟨contents, h⟩ := exists_cut bytes
    rwa [← h.contents_eq]

theorem Cut.length_eq (h : Cut bytes contents) : contents.length = (linesOf bytes).length := by
  rw [h.contents_eq, List.length_map]

end

section

variable [RealReading] {bytes content : List UInt8}

/-! ## What a line gives -/

/-- What a line gives by its content: nothing if it is blank, or else the listen that it holds, or
why it holds none. -/
inductive Gives (content : List UInt8) : Option (Except LineFault Listen) → Prop
  | blank {text : String} (htext : content = utf8Of text.toList)
    (h : ∀ c ∈ text.toList, Text.isBlank c = true) : Gives content none
  | listen {text : String} {l : Listen} (htext : content = utf8Of text.toList)
    (h : ∃ c ∈ text.toList, Text.isBlank c = false) (hread : Listen.read text = .ok l) :
    Gives content (some (.ok l))
  | malformed {text : String} {fault : Fault} (htext : content = utf8Of text.toList)
    (h : ∃ c ∈ text.toList, Text.isBlank c = false) (hread : Listen.read text = .error fault) :
    Gives content (some (.error (.malformed fault)))
  | undecodable (h : ∀ text : String, content ≠ utf8Of text.toList) :
    Gives content (some (.error (.unreadable .notUtf8)))

def readContent (content : List UInt8) : Option (Except LineFault Listen) :=
  match decodeUtf8 content with
  | none => some (.error (.unreadable .notUtf8))
  | some text =>
    if Text.allBlank text.toList then none else some ((Listen.read text).mapError .malformed)

theorem Gives.readContent_eq {x : Option (Except LineFault Listen)} (h : Gives content x) :
    readContent content = x := by
  have hread {text : String} (htext : content = utf8Of text.toList) :
      readContent content = if Text.allBlank text.toList then none
        else some ((Listen.read text).mapError .malformed) := by
    rw [readContent, htext, decodeUtf8_utf8Of]
  have hvisible {text : String} (h : ∃ c ∈ text.toList, Text.isBlank c = false) :
      ¬ Text.allBlank text.toList = true := by
    simpa [Text.allBlank] using h
  cases h with
  | @blank text htext h =>
    have hblank : Text.allBlank text.toList = true := List.all_eq_true.2 h
    rw [hread htext, if_pos hblank]
  | listen htext h hok => rw [hread htext, if_neg (hvisible h), hok]; rfl
  | malformed htext h herror => rw [hread htext, if_neg (hvisible h), herror]; rfl
  | undecodable h =>
    have hnone : decodeUtf8 content = none :=
      Option.eq_none_iff_forall_ne_some.2 fun text hsome => h text (decodeUtf8_eq_some_iff.1 hsome)
    rw [readContent, hnone]

theorem gives_readContent (content : List UInt8) : Gives content (readContent content) := by
  cases hdecode : decodeUtf8 content with
  | none =>
    rw [readContent, hdecode]
    refine .undecodable fun text htext => ?_
    rw [decodeUtf8_eq_some_iff.2 htext] at hdecode
    cases hdecode
  | some text =>
    have htext := decodeUtf8_eq_some_iff.1 hdecode
    rw [readContent, hdecode]
    by_cases hblank : Text.allBlank text.toList = true
    · simp only [if_pos hblank]
      exact .blank htext (List.all_eq_true.1 hblank)
    · have hvisible : ∃ c ∈ text.toList, Text.isBlank c = false := by
        simpa [Text.allBlank] using hblank
      simp only [if_neg hblank]
      cases hread : Listen.read text with
      | ok l => exact .listen htext hvisible hread
      | error fault => exact .malformed htext hvisible hread

/-! ## Numbers -/

/-- What lines give that are numbered from `number` on. -/
def readFrom (number : Nat) (lines : List (List UInt8)) : List (Except LineError Listen) :=
  (lines.zipIdx number).filterMap fun (line, number) => readNumbered line number

theorem readAll_eq (bytes : List UInt8) : readAll bytes = readFrom 1 (linesOf bytes) := rfl

theorem readFrom_append (number : Nat) (lines more : List (List UInt8)) :
    readFrom number (lines ++ more) =
      readFrom number lines ++ readFrom (number + lines.length) more := by
  rw [readFrom, List.zipIdx_append, List.filterMap_append, readFrom, readFrom]

theorem readNumbered_add (line : List UInt8) (number before : Nat) :
    readNumbered line (number + before) =
      (readNumbered line number).map (·.mapError (.after before)) := by
  rw [readNumbered, readNumbered, Option.map_map]
  cases readLine line with
  | none => rfl
  | some x => cases x <;> rfl

theorem readFrom_add (number before : Nat) (lines : List (List UInt8)) :
    readFrom (number + before) lines =
      (readFrom number lines).map (·.mapError (.after before)) := by
  induction lines generalizing number with
  | nil => rfl
  | cons line lines ih =>
    have hrest := ih (number + 1)
    rw [Nat.add_right_comm] at hrest
    simp only [readFrom, List.zipIdx_cons, List.filterMap_cons, readNumbered_add] at hrest ⊢
    cases readNumbered line number with
    | none => exact hrest
    | some x => exact congrArg _ hrest

/-- What follows a newline is read by itself, and its errors are numbered on. -/
theorem readAll_append (h : IsEnded bytes) (rest : List UInt8) :
    readAll (bytes ++ rest) =
      readAll bytes ++ (readAll rest).map (·.mapError (.after (linesOf bytes).length)) := by
  rw [readAll_eq, linesOf_append h, readFrom_append, readFrom_add, ← readAll_eq, ← readAll_eq]

theorem readAll_of_cut {contents : List (List UInt8)} (h : Cut bytes contents) :
    readAll bytes = ((contents.map readContent).zipIdx 1).filterMap
      fun (x, number) => x.map (·.mapError (⟨number, ·⟩)) := by
  rw [h.contents_eq, List.map_map, List.zipIdx_map, List.filterMap_map]
  rfl

theorem length_readAll_line {line : List UInt8} (hline : 10 ∉ line) :
    (readAll (line ++ [10])).length ≤ 1 := by
  rw [length_readAll, linesOf_line hline]
  exact List.countP_le_length

/-- A stream is cut into lines in one way, and in order every line gives what its content alone
gives: nothing if it is blank, or else one listen or one error with the number of the line. What
stands behind a newline is read by itself and numbered on, and a line between others makes no
difference to what they give. -/
theorem readAll_line_by_line :
    (∀ bytes, ∃ contents, (∀ contents', Cut bytes contents' ↔ contents' = contents) ∧
      ∃ found, List.Forall₂ Gives contents found ∧
        readAll bytes = (found.zipIdx 1).filterMap
          fun (x, number) => x.map (·.mapError (⟨number, ·⟩))) ∧
      (∀ content x y, Gives content x → Gives content y → x = y) ∧
      ∀ before contents, IsEnded before → Cut before contents →
        (∀ rest, readAll (before ++ rest) =
          readAll before ++ (readAll rest).map (·.mapError (.after contents.length))) ∧
        ∀ line rest, 10 ∉ line → (readAll (line ++ [10])).length ≤ 1 ∧
          readAll (before ++ (line ++ 10 :: rest)) =
            readAll before ++
              (readAll (line ++ [10])).map (·.mapError (.after contents.length)) ++
              (readAll rest).map (·.mapError (.after (contents.length + 1))) := by
  refine ⟨fun bytes => ?_, fun content x y hx hy => ?_, fun before contents hended hcut => ?_⟩
  · obtain ⟨contents, hcut⟩ := exists_cut bytes
    refine ⟨contents, fun contents' => ?_, contents.map readContent, ?_, readAll_of_cut hcut⟩
    · rw [cut_iff, ← hcut.contents_eq]
    · rw [List.forall₂_map_right_iff, List.forall₂_same]
      exact fun content _ => gives_readContent content
  · rw [← hx.readContent_eq, hy.readContent_eq]
  · rw [hcut.length_eq]
    refine ⟨readAll_append hended, fun line rest hline => ⟨length_readAll_line hline, ?_⟩⟩
    have hbytes : before ++ (line ++ 10 :: rest) = before ++ (line ++ [10]) ++ rest := by simp
    have hended' : IsEnded (before ++ (line ++ [10])) := .inr (by simp)
    have hlength : (linesOf (before ++ (line ++ [10]))).length = (linesOf before).length + 1 := by
      rw [linesOf_append hended, linesOf_line hline, List.length_append]
      rfl
    rw [hbytes, readAll_append hended', readAll_append hended, hlength]

end

theorem readAll_line_by_line_undecodable :
    let _ := nearestReading
    let before : List UInt8 := [255, 10, 13, 10]
    IsEnded before ∧ Cut before [[255], []] ∧ 10 ∉ ([120] : List UInt8) ∧
      ∃ fault, readAll (before ++ ([120] ++ 10 :: writeAll [sample])) =
        [.error ⟨1, .unreadable .notUtf8⟩, .error ⟨3, .malformed fault⟩, .ok sample] := by
  intro _ before
  have hended : IsEnded before := .inr rfl
  have hcut : Cut before [[255], []] := cut_iff.2 rfl
  have hline : 10 ∉ ([120] : List UInt8) := by decide
  obtain ⟨-, hsplit⟩ := readAll_line_by_line.2.2 before _ hended hcut
  have hbyte : decodeUtf8 [255] = none := by decide +kernel
  have hnothing : decodeUtf8 [] = some "" := decodeUtf8_utf8Of ""
  have hletter : decodeUtf8 [120] = some "x" := decodeUtf8_utf8Of "x"
  obtain ⟨fault, hfault⟩ : ∃ fault, Listen.read "x" = .error fault := ⟨_, rfl⟩
  have hbefore : readAll before = [.error ⟨1, .unreadable .notUtf8⟩] := by
    rw [readAll_of_cut hcut]
    simp [readContent, hbyte, hnothing, Text.allBlank, Except.mapError]
  have hmiddle : readAll ([120] ++ [10]) = [.error ⟨1, .malformed fault⟩] := by
    have hcut' : Cut ([120] ++ [10]) [[120]] := cut_iff.2 rfl
    have hcontent : readContent [120] = some (.error (.malformed fault)) := by
      rw [readContent, hletter]
      exact congrArg (some <| Except.mapError LineFault.malformed ·) hfault
    rw [readAll_of_cut hcut', List.map_singleton, hcontent]
    rfl
  have hlast : readAll (writeAll [sample]) = [.ok sample] :=
    readAll_writeAll_of_readable isNearest_nearestReading
      (List.forall_mem_singleton.2 readable_sample)
  refine ⟨hended, hcut, hline, fault, ?_⟩
  rw [(hsplit [120] (writeAll [sample]) hline).2, hbefore, hlast, hmiddle]
  rfl

end Listen

end ListenQuery

import ListenQuery.Proofs.Json.Printable
import ListenQuery.Proofs.Text.Utf8

/-!
# Lines of a stream

A line without a newline in it is cut off right after its newline. The bytes of a listen are one
such line, and the lines of a written stream are those of its listens.
-/

namespace ListenQuery.Listen

theorem linesOf_cons (b : UInt8) (bytes : List UInt8) :
    linesOf (b :: bytes) = addToLine b (linesOf bytes) := rfl

theorem linesOf_line {line : List UInt8} (hline : 10 ∉ line) (rest : List UInt8) :
    linesOf (line ++ 10 :: rest) = (line ++ [10]) :: linesOf rest := by
  induction line with
  | nil => rfl
  | cons b line ih =>
    obtain ⟨hb, hline⟩ := not_or.1 (List.mem_cons.not.1 hline)
    rw [List.cons_append, linesOf_cons, ih hline, addToLine, if_neg (Ne.symm hb)]
    rfl

theorem lineBytes_eq (l : Listen) : lineBytes l = utf8Of l.line.toList ++ [10] := by
  rw [lineBytes, toList_toUTF8, String.toList_append, utf8Of, List.flatMap_append]
  rfl

theorem printable_line (l : Listen) : Printable l.line.toList := by
  rw [line, String.toList_ofList]
  exact Json.printable_compact l.toJson

theorem le_toNat_of_mem_utf8Of {cs : List Char} (hcs : Printable cs) {b : UInt8}
    (hb : b ∈ utf8Of cs) :
    32 ≤ b.toNat := by
  obtain ⟨c, hc, hbyte⟩ := List.mem_flatMap.1 hb
  by_contra hlt
  have heq := toNat_of_mem_utf8EncodeChar hbyte (by omega)
  have hle := hcs c hc
  omega

theorem not_mem_utf8Of {cs : List Char} (hcs : Printable cs) {b : UInt8} (hb : b.toNat < 32) :
    b ∉ utf8Of cs := fun hmem => Nat.not_le.2 hb (le_toNat_of_mem_utf8Of hcs hmem)

theorem linesOf_writeAll (ls : List Listen) : linesOf (writeAll ls) = ls.map lineBytes := by
  induction ls with
  | nil => rfl
  | cons l ls ih =>
    have hnewline : (10 : UInt8) ∉ utf8Of l.line.toList :=
      not_mem_utf8Of (printable_line l) (by decide)
    rw [writeAll, List.flatMap_cons, lineBytes_eq, List.append_assoc, List.singleton_append,
      linesOf_line hnewline, ← lineBytes_eq, ← writeAll, ih, List.map_cons]

theorem stripEnd_newline {content : List UInt8} (h : content.getLast? ≠ some 13) :
    stripEnd (content ++ [10]) = content := by
  rw [stripEnd, List.getLast?_concat, if_pos rfl, List.dropLast_concat, if_neg h]

theorem stripEnd_utf8Of {cs : List Char} (hcs : Printable cs) :
    stripEnd (utf8Of cs ++ [10]) = utf8Of cs := by
  refine stripEnd_newline fun hlast => ?_
  exact not_mem_utf8Of hcs (by decide) (List.mem_of_getLast? hlast)

theorem stripEnd_lineBytes (l : Listen) : stripEnd (lineBytes l) = utf8Of l.line.toList := by
  rw [lineBytes_eq, stripEnd_utf8Of (printable_line l)]

theorem not_allBlank_line (l : Listen) : Text.allBlank l.line.toList = false := by
  rw [line, String.toList_ofList]
  rfl

def isBlankLine (line : List UInt8) : Bool :=
  match decodeUtf8 (stripEnd line) with
  | none => false
  | some text => Text.allBlank text.toList

section

open Number

variable [RealReading]

theorem readLine_text {text : String} {l : Listen} (htext : Printable text.toList)
    (hblank : Text.allBlank text.toList = false) (h : Listen.read text = .ok l) :
    readLine (utf8Of text.toList ++ [10]) = some (.ok l) := by
  simp [readLine, stripEnd_utf8Of htext, decodeUtf8_utf8Of, hblank, h, Except.mapError]

theorem readAll_text {text : String} {l : Listen} (htext : Printable text.toList)
    (hblank : Text.allBlank text.toList = false) (h : Listen.read text = .ok l) :
    readAll (utf8Of text.toList ++ [10]) = [.ok l] := by
  have hlines : linesOf (utf8Of text.toList ++ [10]) = [utf8Of text.toList ++ [10]] :=
    linesOf_line (not_mem_utf8Of htext (by decide)) []
  simp [readAll, hlines, readNumbered, readLine_text htext hblank h, Except.mapError]

theorem readLine_eq_some_ok {line : List UInt8} {l : Listen} (h : readLine line = some (.ok l)) :
    ∃ text, decodeUtf8 (stripEnd line) = some text ∧ Listen.read text = .ok l := by
  unfold readLine at h
  split at h
  · cases h
  · next text hdecode =>
    refine ⟨text, hdecode, ?_⟩
    split at h
    · cases h
    · cases hread : Listen.read text with
      | error fault => simp [hread, Except.mapError] at h
      | ok l' => simpa [hread, Except.mapError] using h

theorem isSome_readLine (line : List UInt8) : (readLine line).isSome = ! isBlankLine line := by
  unfold readLine isBlankLine
  cases decodeUtf8 (stripEnd line) with
  | none => rfl
  | some text => cases hblank : Text.allBlank text.toList <;> simp [hblank]

theorem length_readAll (bytes : List UInt8) :
    (readAll bytes).length = (linesOf bytes).countP (! isBlankLine ·) := by
  rw [readAll]
  generalize linesOf bytes = lines, 1 = number
  induction lines generalizing number with
  | nil => rfl
  | cons line lines ih =>
    have hsome : (readNumbered line number).isSome = ! isBlankLine line := by
      rw [readNumbered, Option.isSome_map, isSome_readLine]
    rw [List.zipIdx_cons, List.countP_cons, ← ih (number + 1), ← hsome]
    cases hread : readNumbered line number with
    | none => simp [hread]
    | some x => simp [hread]

end

end ListenQuery.Listen

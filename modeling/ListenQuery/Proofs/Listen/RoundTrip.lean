import ListenQuery.Proofs.Listen.Line
import ListenQuery.Proofs.Listen.Lines

/-!
# Streams read back

Listens that were read and then edited are written so that reading gives them back: none is lost,
merged, split, repeated or changed.
-/

namespace ListenQuery

open Cursor Number

namespace Listen

/-- A listen that was read from some line and then edited in any way. -/
inductive Obtained [RealReading] : Listen → Prop
  | read {line : String} {l : Listen} (h : Listen.read line = .ok l) : Obtained l
  | set {l : Listen} (h : Obtained l) (key value : String) : Obtained (l.set key value)
  | setPrimary {l l' : Listen} (h : Obtained l) {key value : String}
    (hset : l.setPrimary? key value = some l') : Obtained l'
  | setMetadata {l : Listen} (h : Obtained l) (key value : String) :
    Obtained (l.setMetadata key value)

section

variable [RealReading]

theorem Obtained.readable {l : Listen} (h : Obtained l) : l.Readable infoDepth := by
  induction h with
  | read h => exact readable_of_read h
  | set _ key value ih => exact ih.set key value
  | setPrimary _ hset ih => exact ih.setPrimary? hset
  | setMetadata _ key value ih => exact ih.setMetadata key value

theorem readable_of_mem_readAll {bytes : List UInt8} {l : Listen}
    (h : .ok l ∈ readAll bytes) : l.Readable infoDepth := by
  obtain ⟨⟨line, number⟩, -, hline⟩ := List.mem_filterMap.1 h
  obtain ⟨result, hresult, hok⟩ := Option.map_eq_some_iff.1 hline
  cases result with
  | error fault => cases hok
  | ok l' =>
    obtain rfl := Except.ok.inj hok
    obtain ⟨text, -, hread⟩ := readLine_eq_some_ok hresult
    exact readable_of_read hread

theorem readLine_lineBytes (hnearest : RealReading.IsNearest) {l : Listen}
    (hl : l.Readable infoDepth) : readLine (lineBytes l) = some (.ok l) := by
  simp [readLine, stripEnd_lineBytes, decodeUtf8_utf8Of, not_allBlank_line, read_line hnearest hl,
    Except.mapError]

theorem readAll_writeAll_of_readable (hnearest : RealReading.IsNearest) {ls : List Listen}
    (hls : ∀ l ∈ ls, l.Readable infoDepth) : readAll (writeAll ls) = ls.map .ok := by
  rw [readAll, linesOf_writeAll]
  generalize 1 = number
  induction ls generalizing number with
  | nil => rfl
  | cons l ls ih =>
    obtain ⟨hl, hls⟩ := List.forall_mem_cons.1 hls
    have hread : readNumbered (lineBytes l) number = some (.ok l) := by
      rw [readNumbered, readLine_lineBytes hnearest hl]
      rfl
    simp only [List.map_cons, List.zipIdx_cons, List.filterMap_cons, hread, ih hls]

/-- Reading what was written gives the same listens in the same order. -/
theorem readAll_writeAll (hnearest : RealReading.IsNearest) {ls : List Listen}
    (hls : ∀ l ∈ ls, Obtained l) : readAll (writeAll ls) = ls.map .ok :=
  readAll_writeAll_of_readable hnearest fun l hl => (hls l hl).readable

end

def sample : Listen :=
  ⟨1700000000, none, some "a\"b", none, ⟨"x\ny", "z", none, none, .empty⟩,
    ⟨[("rating", .number (.real ⟨false, 0x3FF8000000000000, by decide⟩ (by decide)))], by decide⟩⟩

theorem readable_sample : sample.Readable infoDepth := by
  refine ⟨⟨nofun, SortedFields.unknown_empty _ _⟩, ⟨?_, ?_⟩⟩
  · simp only [SortedFields.Readable, sample, List.forall_mem_singleton]
    exact .number _ _
  · simp [sample, names]

abbrev nearestReading : RealReading where
  toDouble negative whole fraction exponent :=
    Decimal.toDouble ⟨negative, spelled (whole ++ fraction), exponent - fraction.length⟩

theorem isNearest_nearestReading : @RealReading.IsNearest nearestReading := fun _ _ _ _ _ _ => rfl

theorem readAll_writeAll_sample :
    @readAll nearestReading (writeAll [sample, sample.set "origin" "import", sample]) =
      [.ok sample, .ok (sample.set "origin" "import"), .ok sample] := by
  let _ := nearestReading
  have hread : Obtained sample := .read (read_line isNearest_nearestReading readable_sample)
  refine readAll_writeAll isNearest_nearestReading ?_
  simp only [List.forall_mem_cons]
  exact ⟨hread, hread.set "origin" "import", hread, by simp⟩

end Listen

end ListenQuery

import ListenQuery.Proofs.Filter.Build
import ListenQuery.Proofs.Listen.RoundTrip
import ListenQuery.Proofs.Time.Instant

/-!
# Bounds as instants

A filter keeps the whole seconds of its bounds. Above a lower bound this loses nothing, for no
listen is between an instant and the second it is in. Below an upper bound it loses the second that
the instant is in, which begins before it.
-/

namespace ListenQuery

open Number Text

theorem read_of_readBound {bound : Bound} {text : String} {bound' : Option Timestamp}
    (h : readBound bound (some text) = .ok bound') :
    ∃ t, Timestamp.read text = some t ∧ bound' = some t := by
  simp only [readBound] at h
  split at h
  · next t ht => exact ⟨t, ht, (Except.ok.inj h).symm⟩
  · cases h

theorem TimeRange.contains_iff {r : TimeRange} {t : Timestamp} :
    r.contains t = true ↔ r.min.toInt < t.toInt ∧ t.toInt < r.max.toInt := by
  simp [contains, Int64.lt_iff_toInt_lt]

namespace Filter

section

variable [RealReading] {o : FilterOptions} {f : Filter}

theorem range_of_bounds (hf : (build o).result = .ok f) {after before : String}
    (hafter : o.after = some after) (hbefore : o.before = some before) :
    Timestamp.read after = some f.range.min ∧ Timestamp.read before = some f.range.max := by
  cases result_build_eq_ok_iff.1 hf with
  | intro hclauses hafter' hbefore' =>
    rw [hafter] at hafter'
    rw [hbefore] at hbefore'
    obtain ⟨min, hmin, rfl⟩ := read_of_readBound hafter'
    obtain ⟨max, hmax, rfl⟩ := read_of_readBound hbefore'
    exact ⟨hmin, hmax⟩

/-- Both bounds are exclusive, and the lower one is exact. The range is that between the two
instants if and only if the upper one is at a whole second, or in the same second as the lower one
or before it. -/
theorem contains_bounds (hf : (build o).result = .ok f) {after before : String} {x y : ℚ}
    (hafter : o.after = some after) (hbefore : o.before = some before)
    (hx : Timestamp.Denotes after x) (hy : Timestamp.Denotes before y) :
    (∀ t : Timestamp, f.range.contains t = true ↔ x < t.toInt ∧ t.toInt < ⌊y⌋) ∧
      ((∀ t : Timestamp, f.range.contains t = true ↔ x < t.toInt ∧ (t.toInt : ℚ) < y) ↔
        (⌊y⌋ : ℚ) = y ∨ ⌊y⌋ ≤ ⌊x⌋) := by
  obtain ⟨hmin, hmax⟩ := range_of_bounds hf hafter hbefore
  have hlower := Timestamp.toInt_eq_floor hx hmin
  have hupper := Timestamp.toInt_eq_floor hy hmax
  have hcontains (t : Timestamp) :
      f.range.contains t = true ↔ x < t.toInt ∧ t.toInt < ⌊y⌋ := by
    rw [TimeRange.contains_iff, hlower, hupper, Int.floor_lt]
  refine ⟨hcontains, ?_⟩
  simp only [hcontains]
  constructor
  · intro h
    by_contra hnot
    obtain ⟨hfraction, hlt⟩ := not_or.1 hnot
    rw [Int.not_le] at hlt
    -- the second of the upper bound is before it and is left out
    have hexcluded := h f.range.max
    rw [hupper] at hexcluded
    have hbefore' : (⌊y⌋ : ℚ) < y := lt_of_le_of_ne (Int.floor_le y) hfraction
    exact lt_irrefl _ (hexcluded.2 ⟨Int.floor_lt.1 hlt, hbefore'⟩).2
  · intro h t
    obtain hwhole | hempty := h
    · rw [← Int.cast_lt (R := ℚ), hwhole]
    · -- no second is above the lower bound and below the upper one
      refine iff_of_false (fun h => ?_) (fun h => ?_)
      · have habove := Int.floor_lt.2 h.1
        omega
      · have habove := Int.floor_lt.2 h.1
        have hbelow := Int.le_floor.2 h.2.le
        omega

end

end Filter

/-! ## A fraction of a second -/

namespace Timestamp

theorem denotes_hundred_and_half : Denotes "1970-01-01T00:01:40.5" (201 / 2) := by
  have hfield {lo hi : Nat} {ds : List Char} (hds : ds.all isDigit = true) (hlength : ds.length = 2)
      (hbounds : lo ≤ spelled ds ∧ spelled ds ≤ hi) : (Field.mk [] ds).IsProper lo hi :=
    ⟨by simp, List.all_eq_true.1 hds, ⟨by simp [hlength], hlength.le⟩, hbounds⟩
  let one : Field := ⟨[], ['0', '1']⟩
  let d : DateText := ⟨⟨[], [], ['1', '9', '7', '0']⟩, one, one⟩
  let s : SecondText := ⟨⟨[], ['4', '0']⟩, ['5']⟩
  let c : ClockText := ⟨⟨[], ['0', '0']⟩, one, some s⟩
  have hd : d.IsProper :=
    ⟨⟨by simp [d], .inr (.inr ⟨rfl, by decide⟩), List.all_eq_true.1 rfl, by decide⟩,
      hfield rfl rfl (by decide), hfield rfl rfl (by decide), by decide, by decide⟩
  have hc : c.IsProper := by
    refine ⟨hfield rfl rfl (by decide), hfield rfl rfl (by decide), ?_⟩
    rintro _ ⟨⟩
    exact ⟨hfield rfl rfl (by decide), List.all_eq_true.1 rfl⟩
  have hday : d.date.dayNumber = 0 := by decide
  have hsecond : c.secondValue = 40 := rfl
  have hfraction : c.fraction = (5 : Nat) / 10 ^ 1 := rfl
  refine ⟨.inUtc d true c, .inUtc hd hc (.inl rfl), hsecond.le.trans (by decide),
    by decide +kernel, ?_⟩
  rw [Moment.instant, hday, ClockText.instant, hsecond, hfraction]
  have hhour : c.hour.value = 0 := rfl
  have hminute : c.minute.value = 1 := rfl
  rw [hhour, hminute]
  norm_num

theorem denotes_ninetyNine : Denotes "99" 99 := by
  have hspelled : spelled ['9', '9'] = 99 := rfl
  refine ⟨.seconds false ['9', '9'], .seconds false (List.all_eq_true.1 rfl) (by decide), trivial,
    by decide +kernel, ?_⟩
  simp [Moment.instant, hspelled]

end Timestamp

namespace Filter

def halfSecond : FilterOptions := ⟨none, some "99", some "1970-01-01T00:01:40.5", none, none⟩

theorem build_halfSecond [RealReading] : (build halfSecond).result = .ok ⟨⟨99, 100⟩, []⟩ := by
  have hclauses : readFilterOption halfSecond.filter = .ok [] := rfl
  have hafter : readBound .after halfSecond.after = .ok (some 99) := by decide +kernel
  have hbefore : readBound .before halfSecond.before = .ok (some 100) := by decide +kernel
  exact result_build_eq_ok_iff.2
    (.intro hclauses hafter hbefore rfl Fields.sorted_nil rfl Fields.sorted_nil)

theorem contains_bounds_halfSecond :
    let _ := Listen.nearestReading
    ∃ f, (build halfSecond).result = .ok f ∧ Timestamp.Denotes "99" 99 ∧
      Timestamp.Denotes "1970-01-01T00:01:40.5" (201 / 2) ∧
      ∀ t : Timestamp, f.range.contains t = true ↔ (99 : ℚ) < t.toInt ∧ t.toInt < 100 := by
  intro _
  have hfloor : ⌊(201 / 2 : ℚ)⌋ = 100 := by norm_num
  obtain ⟨hcontains, -⟩ := contains_bounds build_halfSecond rfl rfl Timestamp.denotes_ninetyNine
    Timestamp.denotes_hundred_and_half
  rw [hfloor] at hcontains
  exact ⟨_, build_halfSecond, Timestamp.denotes_ninetyNine, Timestamp.denotes_hundred_and_half,
    hcontains⟩

/-- The second 100 is between the bounds, and the filter rejects it. -/
theorem not_contains_halfSecond :
    let _ := Listen.nearestReading
    ∃ f, (build halfSecond).result = .ok f ∧ Timestamp.Denotes "99" 99 ∧
      Timestamp.Denotes "1970-01-01T00:01:40.5" (201 / 2) ∧
      (99 : ℚ) < (100 : Timestamp).toInt ∧ ((100 : Timestamp).toInt : ℚ) < 201 / 2 ∧
      f.range.contains 100 = false := by
  intro _
  have hsecond : (100 : Timestamp).toInt = 100 := rfl
  refine ⟨_, build_halfSecond, Timestamp.denotes_ninetyNine, Timestamp.denotes_hundred_and_half,
    ?_, ?_, by decide⟩
  · norm_num [hsecond]
  · norm_num [hsecond]

end Filter

end ListenQuery

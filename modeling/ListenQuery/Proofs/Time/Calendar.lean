import ListenQuery.Time.Calendar
import Mathlib.Algebra.Order.Group.Nat

/-!
# Dates and day numbers

A date is found again from its day number: the years before a day are counted in cycles of 400, 100
and 4 years and singly, the last part of a cycle being of another length, and the months before it
are taken off one by one.
-/

namespace ListenQuery.Date

def totalDays (lengths : List Nat) : Nat := lengths.foldr (· + ·) 0

theorem totalDays_cons (length : Nat) (lengths : List Nat) :
    totalDays (length :: lengths) = length + totalDays lengths := rfl

def yearLength (leap : Bool) : Nat := totalDays (monthLengths leap)

theorem yearLength_eq (leap : Bool) : yearLength leap = if leap then 366 else 365 := by
  cases leap <;> rfl

/-! ## Years -/

/-- Whole centuries within 400 years, then fours of years and single years. -/
structure InCycle (centuries fours years : Int) : Prop where
  centuries_nonneg : 0 ≤ centuries
  centuries_le : centuries ≤ 3
  fours_nonneg : 0 ≤ fours
  fours_le : fours ≤ 24
  years_nonneg : 0 ≤ years
  years_le : years ≤ 3

section

variable {centuries fours years : Int}

theorem InCycle.daysBeforeYear_eq (h : InCycle centuries fours years) (cycles : Int) :
    daysBeforeYear (400 * cycles + 100 * centuries + 4 * fours + years + 1) =
      146097 * cycles + 36524 * centuries + 1461 * fours + 365 * years := by
  obtain ⟨_, _, _, _, _, _⟩ := h
  dsimp only [daysBeforeYear]
  omega

theorem InCycle.isLeap_iff (h : InCycle centuries fours years) (cycles : Int) :
    isLeap (400 * cycles + 100 * centuries + 4 * fours + years + 1) = true ↔
      years = 3 ∧ (fours ≠ 24 ∨ centuries = 3) := by
  obtain ⟨_, _, _, _, _, _⟩ := h
  simp only [isLeap, ne_eq, Bool.and_eq_true, Bool.or_eq_true, decide_eq_true_eq]
  omega

end

/-- Of four parts of one size the last may be longer by one. -/
theorem quarter_spec {n size : Int} (hn : 0 ≤ n) (hsize : 0 < size) (hle : n ≤ 4 * size) :
    0 ≤ min (n / size) 3 ∧ min (n / size) 3 ≤ 3 ∧ 0 ≤ n - size * min (n / size) 3 ∧
      n - size * min (n / size) 3 ≤ size ∧
      (min (n / size) 3 < 3 → n - size * min (n / size) 3 < size) := by
  rcases le_total (n / size) 3 with hquotient | hquotient
  · have hnonneg := Int.emod_nonneg n hsize.ne'
    have hlt := Int.emod_lt_of_pos n hsize
    rw [min_eq_left hquotient, ← Int.emod_def]
    exact ⟨Int.ediv_nonneg hn hsize.le, hquotient, hnonneg, hlt.le, fun _ => hlt⟩
  · have hthree := Int.mul_le_of_le_ediv hsize hquotient
    rw [min_eq_right hquotient]
    omega

theorem yearAndDay_spec (n : Int) :
    daysBeforeYear (yearAndDay n).1 + (yearAndDay n).2 = n ∧
      (yearAndDay n).2 < yearLength (isLeap (yearAndDay n).1) := by
  dsimp only [yearAndDay]
  have hn : n = 146097 * (n / 146097) + n % 146097 := by omega
  have hinCycle : 0 ≤ n % 146097 ∧ n % 146097 ≤ 4 * 36524 := by omega
  generalize n / 146097 = cycles at *
  generalize n % 146097 = inCycle at *
  obtain ⟨hcenturies, hcenturies', hinCentury, hinCentury', hshort⟩ :=
    quarter_spec hinCycle.1 (by decide) hinCycle.2
  generalize min (inCycle / 36524) 3 = centuries at *
  obtain ⟨inCentury, hcentury⟩ : ∃ inCentury, inCycle - 36524 * centuries = inCentury := ⟨_, rfl⟩
  rw [hcentury] at hinCentury hinCentury' hshort ⊢
  have hfours : 0 ≤ inCentury / 1461 ∧ inCentury / 1461 ≤ 24 := by omega
  have hinFour : 0 ≤ inCentury % 1461 ∧ inCentury % 1461 ≤ 4 * 365 := by omega
  have hfour : inCentury = 1461 * (inCentury / 1461) + inCentury % 1461 := by omega
  generalize inCentury / 1461 = fours at *
  generalize inCentury % 1461 = inFour at *
  obtain ⟨hyears, hyears', hday, hday', hshort'⟩ :=
    quarter_spec hinFour.1 (by decide) hinFour.2
  generalize min (inFour / 365) 3 = years at *
  have hparts : InCycle centuries fours years :=
    ⟨hcenturies, hcenturies', hfours.1, hfours.2, hyears, hyears'⟩
  rw [hparts.daysBeforeYear_eq, yearLength_eq]
  refine ⟨by omega, ?_⟩
  split_ifs with hleap
  · omega
  · rw [hparts.isLeap_iff] at hleap
    omega

/-! ## Months -/

theorem monthAndDay_spec {lengths : List Nat} {n : Nat} (hn : n < totalDays lengths) (month : Nat) :
    ∃ before day, monthAndDay month lengths n = (month + before, day + 1) ∧
      before < lengths.length ∧ day < lengths.getD before 0 ∧
      totalDays (lengths.take before) + day = n := by
  induction lengths generalizing month n with
  | nil => exact absurd hn (Nat.not_lt_zero n)
  | cons length rest ih =>
    by_cases hfirst : n < length
    · exact ⟨0, n, by simp [monthAndDay, hfirst], by simp, hfirst, by simp [totalDays]⟩
    · have hrest : n - length < totalDays rest := by
        rw [totalDays_cons] at hn
        omega
      obtain ⟨before, day, heq, hbefore, hday, hsum⟩ := ih hrest (month + 1)
      refine ⟨before + 1, day, ?_, Nat.succ_lt_succ hbefore, hday, ?_⟩
      · rw [monthAndDay, if_neg hfirst, heq]
        congr 1
        omega
      · rw [List.take_succ_cons, totalDays_cons]
        omega

theorem daysBeforeMonth_succ (leap : Bool) (before : Nat) :
    daysBeforeMonth leap (1 + before) = totalDays ((monthLengths leap).take before) := by
  rw [daysBeforeMonth, Nat.add_sub_cancel_left, totalDays]

/-! ## Dates -/

theorem ofDayNumber_spec (n : Int) :
    (ofDayNumber n).isValid = true ∧ (ofDayNumber n).dayNumber = n := by
  obtain ⟨hyear, hday⟩ := yearAndDay_spec (n + epochDay)
  obtain ⟨before, day, hmonth, hbefore, hlength, hsum⟩ := monthAndDay_spec hday 1
  have hdate : ofDayNumber n = ⟨(yearAndDay (n + epochDay)).1, 1 + before, day + 1⟩ := by
    simp only [ofDayNumber, hmonth]
  rw [hdate]
  constructor
  · have htwelve : (monthLengths (isLeap (yearAndDay (n + epochDay)).1)).length = 12 := rfl
    simp only [isValid, monthLength, Bool.and_eq_true, decide_eq_true_eq, Nat.add_sub_cancel_left]
    omega
  · simp only [dayNumber, daysBeforeMonth_succ]
    omega

end ListenQuery.Date

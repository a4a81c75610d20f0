import ListenQuery.Proofs.Time.Calendar
import Mathlib.Logic.Function.Iterate

/-!
# Days counted one by one

The proleptic Gregorian calendar told by its rules: how long the months are, and which day comes
after a day. The number of a date is the number of days that are counted in this way from 1
January 1970, forwards or backwards.
-/

namespace ListenQuery.Date

def IsLeapYear (year : Int) : Prop := 4 ∣ year ∧ (100 ∣ year → 400 ∣ year)

instance (year : Int) : Decidable (IsLeapYear year) := inferInstanceAs (Decidable (_ ∧ _))

def daysIn (year : Int) (month : Nat) : Nat :=
  if month = 2 then if IsLeapYear year then 29 else 28
  else if month ∈ [4, 6, 9, 11] then 30
  else 31

structure Exists (d : Date) : Prop where
  month : 1 ≤ d.month ∧ d.month ≤ 12
  day : 1 ≤ d.day ∧ d.day ≤ daysIn d.year d.month

def next (d : Date) : Date :=
  if d.day < daysIn d.year d.month then ⟨d.year, d.month, d.day + 1⟩
  else if d.month < 12 then ⟨d.year, d.month + 1, 1⟩
  else ⟨d.year + 1, 1, 1⟩

/-- Counting `n` days from `d`, backwards if `n` is negative, comes to `d'`. -/
def IsDaysFrom (n : Int) (d d' : Date) : Prop := next^[n.toNat] d = next^[(-n).toNat] d'

def epoch : Date := ⟨1970, 1, 1⟩

section

variable {d d' : Date}

/-! ## Months and years -/

theorem isLeap_iff (year : Int) : isLeap year = true ↔ IsLeapYear year := by
  simp only [isLeap, IsLeapYear, Bool.and_eq_true, Bool.or_eq_true, decide_eq_true_eq]
  omega

theorem monthLength_eq_daysIn (year : Int) {month : Nat} (hmonth : 1 ≤ month ∧ month ≤ 12) :
    monthLength (isLeap year) month = daysIn year month := by
  have htable : ∀ leap : Bool, ∀ month ≤ 12, 1 ≤ month → monthLength leap month =
      if month = 2 then if leap then 29 else 28
      else if month ∈ [4, 6, 9, 11] then 30
      else 31 := by decide
  simp only [htable _ month hmonth.2 hmonth.1, isLeap_iff, daysIn]

theorem isValid_iff_exists : d.isValid = true ↔ d.Exists := by
  simp only [isValid, Bool.and_eq_true, decide_eq_true_eq]
  constructor
  · intro h
    obtain ⟨⟨⟨hmonth, hmonth'⟩, hday⟩, hday'⟩ := h
    rw [monthLength_eq_daysIn _ ⟨hmonth, hmonth'⟩] at hday'
    exact ⟨⟨hmonth, hmonth'⟩, hday, hday'⟩
  · intro h
    rw [monthLength_eq_daysIn _ h.month]
    exact ⟨⟨h.month, h.day.1⟩, h.day.2⟩

theorem daysBeforeYear_succ (year : Int) :
    daysBeforeYear (year + 1) = daysBeforeYear year + yearLength (isLeap year) := by
  rw [yearLength_eq]
  simp only [isLeap_iff, IsLeapYear, daysBeforeYear]
  split_ifs <;> omega

theorem daysBeforeMonth_next (leap : Bool) {month : Nat} (hmonth : 1 ≤ month ∧ month < 12) :
    daysBeforeMonth leap (month + 1) = daysBeforeMonth leap month + monthLength leap month := by
  have htable : ∀ leap : Bool, ∀ month < 12, 1 ≤ month →
      daysBeforeMonth leap (month + 1) = daysBeforeMonth leap month + monthLength leap month := by
    decide
  exact htable leap month hmonth.2 hmonth.1

theorem daysBeforeMonth_december (leap : Bool) :
    daysBeforeMonth leap 12 + 31 = yearLength leap := by
  cases leap <;> rfl

/-! ## The day after -/

theorem Exists.next (h : d.Exists) : d.next.Exists := by
  obtain ⟨hmonth, hday⟩ := h
  have hlength (year : Int) (month : Nat) : 1 ≤ daysIn year month := by
    unfold daysIn
    split_ifs <;> decide
  unfold Date.next
  split_ifs with hsame hyear
  · exact ⟨hmonth, by simp only; omega⟩
  · exact ⟨by simp only; omega, Nat.le_refl _, hlength _ _⟩
  · exact ⟨by simp only; omega, Nat.le_refl _, hlength _ _⟩

theorem dayNumber_next (h : d.Exists) : d.next.dayNumber = d.dayNumber + 1 := by
  obtain ⟨hmonth, hday⟩ := h
  unfold Date.next
  split_ifs with hsame hyear
  · simp only [dayNumber]
    omega
  · have hlast : d.day = monthLength (isLeap d.year) d.month := by
      rw [monthLength_eq_daysIn _ hmonth]
      omega
    simp only [dayNumber, daysBeforeMonth_next _ ⟨hmonth.1, hyear⟩]
    omega
  · obtain ⟨year, month, day⟩ := d
    obtain rfl : month = 12 := by simp only at hmonth hyear; omega
    have hlast : day = 31 := by
      have hdecember : daysIn year 12 = 31 := by simp [daysIn]
      simp only [hdecember] at hday hsame
      omega
    have hyear := daysBeforeMonth_december (isLeap year)
    have hfirst : daysBeforeMonth (isLeap (year + 1)) 1 = 0 := rfl
    simp only [dayNumber, daysBeforeYear_succ, hlast, hfirst]
    omega

theorem Exists.iterate (h : d.Exists) (n : Nat) :
    (Date.next^[n] d).Exists ∧ (Date.next^[n] d).dayNumber = d.dayNumber + n := by
  induction n with
  | zero => exact ⟨h, (Int.add_zero _).symm⟩
  | succ n ih =>
    rw [Function.iterate_succ_apply']
    refine ⟨ih.1.next, ?_⟩
    rw [dayNumber_next ih.1, ih.2]
    omega

/-! ## Dates told apart by their numbers -/

def dayOfYear (d : Date) : Nat := daysBeforeMonth (isLeap d.year) d.month + (d.day - 1)

theorem Exists.dayOfYear_spec (h : d.Exists) : d.dayOfYear < yearLength (isLeap d.year) ∧
    monthAndDay 1 (monthLengths (isLeap d.year)) d.dayOfYear = (d.month, d.day) := by
  have htable : ∀ leap : Bool, ∀ month ≤ 12, 1 ≤ month →
      ∀ day ≤ monthLength leap month, 1 ≤ day →
        daysBeforeMonth leap month + (day - 1) < yearLength leap ∧
        monthAndDay 1 (monthLengths leap) (daysBeforeMonth leap month + (day - 1)) =
          (month, day) := by
    decide +kernel
  obtain ⟨hmonth, hday⟩ := h
  rw [← monthLength_eq_daysIn _ hmonth] at hday
  exact htable _ _ hmonth.2 hmonth.1 _ hday.2 hday.1

theorem Exists.dayNumber_eq (h : d.Exists) :
    d.dayNumber = daysBeforeYear d.year + d.dayOfYear - epochDay := by
  have hday := h.day.1
  simp only [dayNumber, dayOfYear]
  omega

theorem daysBeforeYear_mono {year year' : Int} (h : year ≤ year') :
    daysBeforeYear year ≤ daysBeforeYear year' := by
  refine monotone_int_of_le_succ (fun year => ?_) h
  rw [daysBeforeYear_succ]
  omega

theorem Exists.year_le (h : d.Exists) (h' : d'.Exists) (hle : d.dayNumber ≤ d'.dayNumber) :
    d.year ≤ d'.year := by
  by_contra hlt
  have hmono := daysBeforeYear_mono (show d'.year + 1 ≤ d.year by omega)
  rw [daysBeforeYear_succ] at hmono
  have hend := h'.dayOfYear_spec.1
  rw [h.dayNumber_eq, h'.dayNumber_eq] at hle
  omega

theorem Exists.eq_of_dayNumber (h : d.Exists) (h' : d'.Exists) (heq : d.dayNumber = d'.dayNumber) :
    d = d' := by
  have hyear : d.year = d'.year := le_antisymm (h.year_le h' heq.le) (h'.year_le h heq.ge)
  have hday : d.dayOfYear = d'.dayOfYear := by
    rw [h.dayNumber_eq, h'.dayNumber_eq, hyear] at heq
    omega
  have hparts := h.dayOfYear_spec.2
  rw [hyear, hday, h'.dayOfYear_spec.2] at hparts
  obtain ⟨hmonth, hday⟩ := Prod.mk.inj hparts
  rw [Date.mk.injEq]
  exact ⟨hyear, hmonth.symm, hday.symm⟩

/-- Between two dates there is one number of days, the difference of their numbers. -/
theorem isDaysFrom_iff (h : d.Exists) (h' : d'.Exists) {n : Int} :
    IsDaysFrom n d d' ↔ d'.dayNumber = d.dayNumber + n := by
  obtain ⟨hforth, hnumber⟩ := h.iterate n.toNat
  obtain ⟨hback, hnumber'⟩ := h'.iterate (-n).toNat
  rw [IsDaysFrom]
  constructor
  · intro heq
    rw [heq, hnumber'] at hnumber
    omega
  · intro heq
    exact hforth.eq_of_dayNumber hback (by omega)

theorem isDaysFrom_epoch_iff (h : d.Exists) {n : Int} : IsDaysFrom n epoch d ↔ d.dayNumber = n := by
  have hepoch : epoch.Exists := isValid_iff_exists.1 (by decide)
  have hzero : epoch.dayNumber = 0 := by decide
  rw [isDaysFrom_iff hepoch h, hzero, Int.zero_add]

end

end ListenQuery.Date

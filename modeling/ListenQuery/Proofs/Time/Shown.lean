import ListenQuery.Proofs.Time.Spellings

/-!
# Times read back from their texts

The text of a time is read as that time or not at all. A year of four digits has no sign, and the
text is then one with an offset of zero. Any other year has a sign, with which no offset is read,
and without an offset nothing may follow the time of day. A time without a date is shown in seconds.
-/

namespace ListenQuery

open Number Text

namespace Timestamp

/-- The date of a day, as many days after 1 January 1970 as there are whole ones in the time. -/
def FallsOn (t : Timestamp) (d : Date) : Prop :=
  d.Exists ∧ Date.IsDaysFrom (t.toInt / 86400) Date.epoch d

theorem fallsOn_iff {t : Timestamp} {d : Date} : t.FallsOn d ↔ dateOf t = d := by
  have hexists : (dateOf t).Exists := Date.isValid_iff_exists.1 (isValid_dateOf t)
  have hnumber : (dateOf t).dayNumber = t.toInt / 86400 := (Date.ofDayNumber_spec _).2
  constructor
  · intro h
    exact hexists.eq_of_dayNumber h.1 (hnumber.trans ((Date.isDaysFrom_epoch_iff h.1).1 h.2).symm)
  · rintro rfl
    exact ⟨hexists, (Date.isDaysFrom_epoch_iff hexists).2 hnumber⟩

/-! ## Parts of the text -/

def IsFourDigit (year : Int) : Prop := 0 ≤ year ∧ year ≤ 9999

def signOf (year : Int) : List Char := if year < 0 then ['-'] else if 9999 < year then ['+'] else []

def yearParts (year : Int) : YearText := ⟨[], signOf year, padded 4 year.natAbs⟩

def dateShown (t : Timestamp) : DateText :=
  ⟨yearParts (dateOf t).year, fieldOf [] (dateOf t).month, fieldOf [] (dateOf t).day⟩

def clockShown (t : Timestamp) : ClockText :=
  ⟨fieldOf [] (secondOf t / 3600), fieldOf [] (secondOf t / 60 % 60),
    some ⟨fieldOf [] (secondOf t % 60), []⟩⟩

def zoneShown : Zone := .shift '+' (fieldOf [] 0) (fieldOf [] 0)

section

variable {t : Timestamp} {year : Int}

theorem signOf_of_isFourDigit (h : IsFourDigit year) : signOf year = [] := by
  rw [signOf, if_neg (Int.not_lt.2 h.1), if_neg (Int.not_lt.2 h.2)]

theorem exists_signOf (h : ¬ IsFourDigit year) :
    ∃ c, signOf year = [c] ∧ isDigit c = false := by
  unfold IsFourDigit at h
  unfold signOf
  split_ifs with hneg hlarge
  · exact ⟨'-', rfl, rfl⟩
  · exact ⟨'+', rfl, rfl⟩
  · omega

theorem text_yearParts (year : Int) : (yearParts year).text = yearText year := by
  unfold yearText
  split_ifs with hfour hneg
  · simp only [Bool.and_eq_true, decide_eq_true_eq] at hfour
    have hnat : year.natAbs = year.toNat := by omega
    simp [YearText.text, yearParts, signOf_of_isFourDigit hfour, hnat]
  · simp [YearText.text, yearParts, signOf, hneg]
  · simp only [Bool.and_eq_true, decide_eq_true_eq] at hfour
    have hlarge : 9999 < year := by omega
    simp [YearText.text, yearParts, signOf, hneg, hlarge]

theorem value_yearParts (year : Int) : (yearParts year).value = year := by
  have hminus : signOf year = ['-'] ↔ year < 0 := by
    unfold signOf
    split_ifs <;> simp_all
  simp only [YearText.value, yearParts, spelled_padded, hminus]
  split_ifs <;> omega

theorem isProper_yearParts (year : Int) : (yearParts year).IsProper := by
  have hne : padded 4 year.natAbs ≠ [] := by
    simp [padded_eq]
  refine ⟨List.forall_mem_nil _, ?_, areDigits_padded 4 _, hne⟩
  simp only [yearParts, signOf]
  split_ifs with hneg hlarge
  · exact .inl rfl
  · exact .inr (.inl rfl)
  · exact .inr (.inr ⟨rfl, (length_padded (by decide) (by omega)).le⟩)

theorem date_dateShown (t : Timestamp) : (dateShown t).date = dateOf t := by
  simp [dateShown, DateText.date, value_yearParts, value_fieldOf]

theorem isProper_dateShown (h : t.HasDate) : (dateShown t).IsProper := by
  have hexists : (dateOf t).Exists := Date.isValid_iff_exists.1 (isValid_dateOf t)
  refine ⟨isProper_yearParts _, isProper_fieldOf (List.forall_mem_nil _) hexists.month (by decide),
    isProper_fieldOf (List.forall_mem_nil _) ⟨hexists.day.1, day_le_of_exists hexists⟩ (by decide),
    ?_, ?_⟩
  · rwa [date_dateShown]
  · rw [date_dateShown]
    exact isValid_dateOf t

theorem isFull_day_dateShown (t : Timestamp) : (dateShown t).day.IsFull :=
  isFull_fieldOf (day_lt_of_isValid (isValid_dateOf t)).2

theorem isFull_dateShown (h : IsFourDigit (dateOf t).year) : (dateShown t).IsFull := by
  refine ⟨⟨rfl, signOf_of_isFourDigit h, ?_⟩, isFull_fieldOf (day_lt_of_isValid (isValid_dateOf t)).1,
    isFull_day_dateShown t⟩
  unfold IsFourDigit at h
  exact length_padded (by decide) (by omega)

theorem isProper_clockShown (t : Timestamp) : (clockShown t).IsProper := by
  have hsecond := secondOf_lt t
  refine ⟨isProper_fieldOf (List.forall_mem_nil _) ⟨Nat.zero_le _, by omega⟩ (by decide),
    isProper_fieldOf (List.forall_mem_nil _) ⟨Nat.zero_le _, by omega⟩ (by decide), ?_⟩
  rintro _ ⟨⟩
  exact ⟨isProper_fieldOf (List.forall_mem_nil _) ⟨Nat.zero_le _, by omega⟩ (by decide),
    List.forall_mem_nil _⟩

theorem isFull_clockShown (t : Timestamp) : (clockShown t).IsFull := by
  have hsecond := secondOf_lt t
  exact ⟨isFull_fieldOf (by omega), isFull_fieldOf (by omega), _, rfl, isFull_fieldOf (by omega)⟩

theorem wholeSecond_clockShown (t : Timestamp) : (clockShown t).wholeSecond = secondOf t := by
  simp only [ClockText.wholeSecond, clockShown, ClockText.secondValue, value_fieldOf, daySecond]
  omega

theorem isProper_zoneShown : zoneShown.IsProper := by
  have hzero {hi : Nat} (hhi : hi < 100) : (fieldOf [] 0).IsProper 0 hi :=
    isProper_fieldOf (List.forall_mem_nil _) ⟨Nat.le_refl 0, Nat.zero_le hi⟩ hhi
  exact .shift (.inl rfl) (hzero (by decide)) (isFull_fieldOf (by decide)) (hzero (by decide))
    (isFull_fieldOf (by decide))

/-! ## The text as a date, a time of day and an offset -/

theorem toList_text_eq (h : t.HasDate) :
    t.text.toList = (dateShown t).text ++ 'T' :: ((clockShown t).text ++ zoneShown.text) := by
  have hzone : zoneShown.text = "+00:00".toList := rfl
  rw [toList_text_of_hasDate h, hzone]
  simp [afterYear, dateShown, clockShown, DateText.text, ClockText.text, ClockText.secondText,
    SecondText.text, fractionText, fieldOf, Field.text, text_yearParts]

theorem date_text (h : t.HasDate) :
    date t.text.toList = some (dateOf t, 'T' :: ((clockShown t).text ++ zoneShown.text)) :=
  date_eq_some_iff.2 ⟨dateShown t, isProper_dateShown h, .inl (isFull_day_dateShown t).width,
    toList_text_eq h, (date_dateShown t).symm⟩

theorem trim_text (h : t.HasDate) : trim t.text.toList = t.text.toList := by
  have hsign : ∀ c ∈ signOf (dateOf t).year, isBlank c = false := by
    unfold signOf
    split_ifs <;> simp [isBlank]
  have hyear : ∀ c ∈ yearText (dateOf t).year, isBlank c = false := by
    rw [← text_yearParts]
    exact List.forall_mem_append.2 ⟨List.forall_mem_nil _,
      List.forall_mem_append.2 ⟨hsign, isBlank_padded⟩⟩
  refine trim_of_not_blank ?_
  rw [toList_text_of_hasDate h, afterYear]
  simp only [List.forall_mem_append, List.forall_mem_cons]
  exact ⟨hyear, rfl, isBlank_padded, rfl, isBlank_padded, rfl, isBlank_padded, rfl, isBlank_padded,
    rfl, isBlank_padded, by simp [isBlank]⟩

/-! ## Reading the text back -/

theorem read_text_of_isFourDigit (h : IsFourDigit (dateOf t).year) : read t.text = some t := by
  have hdate : t.HasDate := by
    unfold IsFourDigit at h
    simp only [HasDate, Date.firstYear, Date.lastYear]
    omega
  refine read_eq_some_iff.2 ⟨.withOffset (dateShown t) 'T' (clockShown t) zoneShown,
    .withOffset (isProper_dateShown hdate) (isFull_dateShown h) (.inl rfl) (isProper_clockShown t)
      (isFull_clockShown t) isProper_zoneShown, ?_, ?_⟩
  · rw [trim_text hdate, toList_text_eq hdate, Moment.text]
  · have hzone : zoneShown.seconds = 0 := rfl
    rw [Moment.wholeSeconds, date_dateShown, wholeSecond_clockShown, hzone, Int.sub_zero, ← toInt_eq]

theorem readWithOffset_of_sign {c : Char} (hc : isDigit c = false) (cs : List Char) :
    readWithOffset (c :: cs) = none := by
  have hyear : digits 4 4 (c :: cs) = none := by simp [digits, hc]
  rw [readWithOffset_eq, fullDate, hyear]
  rfl

theorem read_text_of_signed (h : t.HasDate) (hyear : ¬ IsFourDigit (dateOf t).year) :
    read t.text = none := by
  have hdate := date_text h
  have hoffset : readWithOffset t.text.toList = none := by
    obtain ⟨c, hsign, hc⟩ := exists_signOf hyear
    rw [toList_text_eq h, DateText.text, dateShown, YearText.text, yearParts, hsign]
    exact readWithOffset_of_sign hc _
  have hlocal := readLocal_of_zone (.inl rfl) (isProper_clockShown t) isProper_zoneShown hdate
  have hday : readDate t.text.toList = none := by
    rw [Option.eq_none_iff_forall_ne_some]
    intro n hn
    obtain ⟨d, hdate'⟩ := date_of_readDate hn
    cases (Prod.mk.inj (Option.some.inj (hdate.symm.trans hdate'))).2
  rw [read_eq, trim_text h, readInteger_of_date hdate]
  simp only [readDated, hoffset, hlocal, hday, Option.or_none, Option.bind_none]

theorem read_text_of_not_hasDate (h : ¬ t.HasDate) : read t.text = some t := by
  have htext : t.text = String.ofList (intText t.toInt) := by
    rw [← toList_text_of_not_hasDate h, String.ofList_toList]
  rw [htext, read_intText]

theorem read_text_iff (t : Timestamp) :
    read t.text = some t ↔ IsFourDigit (dateOf t).year ∨ ¬ t.HasDate := by
  constructor
  · intro hread
    by_contra hnot
    obtain ⟨hyear, hdate⟩ := not_or.1 hnot
    rw [read_text_of_signed (not_not.1 hdate) hyear] at hread
    cases hread
  · intro h
    obtain hyear | hdate := h
    · exact read_text_of_isFourDigit hyear
    · exact read_text_of_not_hasDate hdate

theorem eq_of_read_text {t' : Timestamp} (h : read t.text = some t') : t' = t := by
  by_cases hread : read t.text = some t
  · exact Option.some.inj (h.symm.trans hread)
  · rw [read_text_iff] at hread
    obtain ⟨hyear, hdate⟩ := not_or.1 hread
    rw [read_text_of_signed (not_not.1 hdate) hyear] at h
    cases h

end

end Timestamp

end ListenQuery

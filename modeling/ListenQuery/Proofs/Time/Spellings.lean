import ListenQuery.Proofs.Time.Days
import ListenQuery.Proofs.Time.Instant
import ListenQuery.Proofs.Time.Text

/-!
# Spellings of an instant

A date and a time of day can be spelled with a letter or a blank between them, with an offset,
without the seconds or without the time of day. What is read is the same calendar time for all of
these, and it is also that of its own decimal text. Where there is no such date, none of them is
read.
-/

namespace ListenQuery

open Number Text

namespace Timestamp

/-- The numbers of a date and a time of day. There need not be such a date. -/
structure DateTime where
  year : Nat
  month : Nat
  day : Nat
  hour : Nat
  minute : Nat
  second : Nat

namespace DateTime

def date (t : DateTime) : Date := ⟨t.year, t.month, t.day⟩

def secondOfDay (t : DateTime) : Nat := 3600 * t.hour + 60 * t.minute + t.second

/-- A year of four digits, months and days of two, and a time of day without a leap second. -/
structure IsProper (t : DateTime) : Prop where
  year : t.year ≤ 9999
  month : t.month ≤ 99
  day : t.day ≤ 99
  hour : t.hour ≤ 23
  minute : t.minute ≤ 59
  second : t.second ≤ 59

def dateText (t : DateTime) : List Char :=
  padded 4 t.year ++ '-' :: (padded 2 t.month ++ '-' :: padded 2 t.day)

def minuteText (t : DateTime) : List Char := padded 2 t.hour ++ ':' :: padded 2 t.minute

def clockText (t : DateTime) : List Char := t.minuteText ++ ':' :: padded 2 t.second

end DateTime

/-- The texts of a date and a time of day, with the seconds of their offset. -/
inductive Spelling (t : DateTime) : List Char → Int → Prop
  | clock {separator : Char} (hseparator : separator = 'T' ∨ separator = ' ') :
    Spelling t (t.dateText ++ separator :: t.clockText) 0
  | utc : Spelling t (t.dateText ++ 'T' :: (t.clockText ++ ['Z'])) 0
  | shift {sign : Char} {hour minute : Nat} (hsign : sign = '+' ∨ sign = '-') (hhour : hour ≤ 23)
    (hminute : minute ≤ 59) :
    Spelling t (t.dateText ++
        'T' :: (t.clockText ++ sign :: (padded 2 hour ++ ':' :: padded 2 minute)))
      ((if sign = '+' then 1 else -1) * (3600 * hour + 60 * minute : Nat))
  | minute {separator : Char} (hseparator : separator = 'T' ∨ separator = ' ')
    (hsecond : t.second = 0) : Spelling t (t.dateText ++ separator :: t.minuteText) 0
  | date (hmidnight : t.hour = 0 ∧ t.minute = 0 ∧ t.second = 0) : Spelling t t.dateText 0

section

variable {t : DateTime} {n lo hi : Nat} {rest text : List Char} {offset : Int}

/-! ## Fields of full width -/

theorem areDigits_padded (width n : Nat) : AreDigits (padded width n) :=
  fun _ => isDigit_of_mem_padded

theorem padded_ne_nil {width : Nat} (hwidth : 0 < width) (hn : n < 10 ^ width) :
    padded width n ≠ [] := by
  rw [← List.length_pos_iff_ne_nil, length_padded hwidth hn]
  exact hwidth

theorem year_ne_nil {t : DateTime} (ht : t.IsProper) : padded 4 t.year ≠ [] :=
  padded_ne_nil (by decide) (Nat.lt_succ_of_le ht.year)

def fieldOf (blanks : List Char) (n : Nat) : Field := ⟨blanks, padded 2 n⟩

theorem value_fieldOf (blanks : List Char) (n : Nat) : (fieldOf blanks n).value = n :=
  spelled_padded 2 n

theorem isProper_fieldOf {blanks : List Char} (hblanks : ∀ c ∈ blanks, isBlank c = true)
    (hn : lo ≤ n ∧ n ≤ hi) (hhi : hi < 100) : (fieldOf blanks n).IsProper lo hi := by
  have hlength : (padded 2 n).length = 2 := length_padded (by decide) (by omega)
  refine ⟨hblanks, areDigits_padded 2 n, ?_, ?_⟩
  · simp [fieldOf, hlength]
  · rwa [value_fieldOf]

theorem isFull_fieldOf (hn : n < 100) : (fieldOf [] n).IsFull :=
  ⟨rfl, length_padded (by decide) hn⟩

/-! ## Dates -/

theorem year_padded (hn : n ≤ 9999) (rest : List Char) :
    year (padded 4 n ++ rest) = some ((n : Int), rest) := by
  have hlength : (padded 4 n).length = 4 := length_padded (by decide) (by omega)
  refine year_eq_some_iff.2 ⟨⟨[], [], padded 4 n⟩, ⟨by simp, .inr (.inr ⟨rfl, hlength.le⟩),
    areDigits_padded 4 n, padded_ne_nil (by decide) (by omega)⟩, .inl ⟨rfl, hlength⟩, rfl, ?_⟩
  simp [YearText.value]

theorem shortNumber_padded (hn : n ≤ 99) (rest : List Char) :
    shortNumber lo hi (padded 2 n ++ rest) = if lo ≤ n ∧ n ≤ hi then some (n, rest) else none := by
  have hlength : (padded 2 n).length = 2 := length_padded (by decide) (by omega)
  have htrim : trimStart (padded 2 n ++ rest) = padded 2 n ++ rest :=
    trimStart_digits (List.forall_mem_nil _) (areDigits_padded 2 n)
      (padded_ne_nil (by decide) (by omega))
  have hdigits : digits 1 2 (padded 2 n ++ rest) = some (n, rest) :=
    digits_eq_some_iff.2 ⟨padded 2 n, areDigits_padded 2 n, by omega, hlength.le, .inl hlength, rfl,
      (spelled_padded 2 n).symm⟩
  rw [shortNumber, htrim, hdigits]
  rfl

theorem date_dateText (ht : t.IsProper) (hdate : ¬ t.date.Exists) (rest : List Char) :
    Timestamp.date (t.dateText ++ rest) = none := by
  have htext : t.dateText ++ rest = padded 4 t.year ++
      '-' :: (padded 2 t.month ++ '-' :: (padded 2 t.day ++ rest)) := by
    simp [DateTime.dateText]
  have hchecked : checked ⟨t.year, t.month, t.day⟩ = none := by
    rw [Option.eq_none_iff_forall_ne_some]
    intro d hd
    exact hdate (Date.isValid_iff_exists.1 (checked_eq_some_iff.1 hd).2.1)
  rw [htext, Timestamp.date, year_padded ht.year]
  simp only [Option.bind_eq_bind, Option.bind_some, expect, if_true, shortNumber_padded ht.month]
  by_cases hmonth : 1 ≤ t.month ∧ t.month ≤ 12
  · simp only [if_pos hmonth, Option.bind_some, if_true, shortNumber_padded ht.day]
    by_cases hday : 1 ≤ t.day ∧ t.day ≤ 31
    · simp only [if_pos hday, Option.bind_some, hchecked, Option.bind_none]
    · simp only [if_neg hday, Option.bind_none]
  · simp only [if_neg hmonth, Option.bind_none]

theorem day_le_of_exists {d : Date} (h : d.Exists) : d.day ≤ 31 := by
  have hday := h.day.2
  have hlength : Date.daysIn d.year d.month ≤ 31 := by
    unfold Date.daysIn
    split_ifs <;> decide
  omega

/-! ## Texts that are no times -/

theorem readDated_eq_none {cs : List Char} (h : Timestamp.date cs = none) :
    readDated cs = none := by
  have hlocal (letter withSeconds : Bool) : readLocal letter withSeconds cs = none := by
    rw [Option.eq_none_iff_forall_ne_some]
    intro n hn
    obtain ⟨d, c, -, -, hdate⟩ := date_of_readLocal hn
    cases h.symm.trans hdate
  have hoffset : readWithOffset cs = none := by
    rw [Option.eq_none_iff_forall_ne_some]
    intro n hn
    obtain ⟨d, separator, c, zone, -, -, -, hdate⟩ := date_of_readWithOffset hn
    cases h.symm.trans hdate
  have hdate : readDate cs = none := by
    rw [Option.eq_none_iff_forall_ne_some]
    intro n hn
    obtain ⟨d, hdate⟩ := date_of_readDate hn
    cases h.symm.trans hdate
  simp only [readDated, hlocal, hoffset, hdate, Option.or_none]

theorem readInteger_dateText (ht : t.IsProper) (rest : List Char) :
    readInteger (t.dateText ++ rest) = none := by
  obtain ⟨c, year, hyear⟩ := List.exists_cons_of_ne_nil (year_ne_nil ht)
  rw [DateTime.dateText, hyear, List.cons_append, List.cons_append]
  exact readInteger_of_dash (by simp)

/-! ## Spellings as moments -/

def dateParts (t : DateTime) : DateText :=
  ⟨⟨[], [], padded 4 t.year⟩, fieldOf [] t.month, fieldOf [] t.day⟩

def clockParts (t : DateTime) (blanks : List Char) (withSeconds : Bool) : ClockText :=
  ⟨fieldOf blanks t.hour, fieldOf [] t.minute,
    if withSeconds then some ⟨fieldOf [] t.second, []⟩ else none⟩

theorem text_dateParts (t : DateTime) : (dateParts t).text = t.dateText := rfl

theorem date_dateParts (t : DateTime) : (dateParts t).date = t.date := by
  simp [dateParts, DateText.date, YearText.value, value_fieldOf, DateTime.date]

theorem isProper_dateParts (ht : t.IsProper) (hdate : t.date.Exists) :
    (dateParts t).IsProper ∧ (dateParts t).IsFull := by
  have hyear := ht.year
  have hlength : (padded 4 t.year).length = 4 := length_padded (by decide) (by omega)
  refine ⟨⟨⟨List.forall_mem_nil _, .inr (.inr ⟨rfl, hlength.le⟩), areDigits_padded 4 _,
    year_ne_nil ht⟩, ?_, ?_, ?_, ?_⟩, ⟨rfl, rfl, hlength⟩, ?_, ?_⟩
  · exact isProper_fieldOf (List.forall_mem_nil _) hdate.month (by decide)
  · exact isProper_fieldOf (List.forall_mem_nil _) ⟨hdate.day.1, day_le_of_exists hdate⟩ (by decide)
  · rw [date_dateParts]
    simp only [Date.firstYear, Date.lastYear, DateTime.date]
    omega
  · rw [date_dateParts]
    exact Date.isValid_iff_exists.2 hdate
  · exact isFull_fieldOf (Nat.lt_succ_of_le ht.month)
  · exact isFull_fieldOf (Nat.lt_succ_of_le ht.day)

theorem isProper_clockParts (ht : t.IsProper) {blanks : List Char}
    (hblanks : ∀ c ∈ blanks, isBlank c = true) (withSeconds : Bool) :
    (clockParts t blanks withSeconds).IsProper := by
  refine ⟨isProper_fieldOf hblanks ⟨Nat.zero_le _, ht.hour⟩ (by decide),
    isProper_fieldOf (List.forall_mem_nil _) ⟨Nat.zero_le _, ht.minute⟩ (by decide), ?_⟩
  intro s hs
  have hsecond := ht.second
  cases withSeconds <;> cases hs
  exact ⟨isProper_fieldOf (List.forall_mem_nil _) ⟨Nat.zero_le _, by omega⟩ (by decide),
    List.forall_mem_nil _⟩

theorem isFull_clockParts (ht : t.IsProper) : (clockParts t [] true).IsFull := by
  obtain ⟨-, -, -, hhour, hminute, hsecond⟩ := ht
  exact ⟨isFull_fieldOf (by omega), isFull_fieldOf (by omega), _, rfl, isFull_fieldOf (by omega)⟩

theorem text_clockParts (t : DateTime) (blanks : List Char) (withSeconds : Bool) :
    (clockParts t blanks withSeconds).text =
      blanks ++ if withSeconds then t.clockText else t.minuteText := by
  cases withSeconds <;> simp [clockParts, ClockText.text, ClockText.secondText, SecondText.text,
    fractionText, fieldOf, Field.text, DateTime.clockText, DateTime.minuteText]

theorem wholeSecond_clockParts (ht : t.IsProper) (blanks : List Char) {withSeconds : Bool}
    (h : withSeconds = false → t.second = 0) :
    (clockParts t blanks withSeconds).wholeSecond = t.secondOfDay := by
  have hsecond := ht.second
  cases withSeconds with
  | true =>
    simp only [ClockText.wholeSecond, clockParts, ClockText.secondValue, value_fieldOf, daySecond,
      DateTime.secondOfDay, if_true]
    omega
  | false =>
    have hzero := h rfl
    simp [ClockText.wholeSecond, clockParts, ClockText.secondValue, value_fieldOf, daySecond,
      DateTime.secondOfDay, hzero]

theorem exists_moment_utc (ht : t.IsProper) (hdate : t.date.Exists) {separator : Char}
    (hseparator : separator = 'T' ∨ separator = ' ') (withSeconds : Bool)
    (hsecond : withSeconds = false → t.second = 0) : ∃ m : Moment, m.IsProper ∧
      m.text = t.dateText ++ separator :: (if withSeconds then t.clockText else t.minuteText) ∧
      m.wholeSeconds = 86400 * t.date.dayNumber + t.secondOfDay := by
  obtain ⟨hd, hd'⟩ := isProper_dateParts ht hdate
  obtain ⟨letter, blanks, hblanks, hgap⟩ : ∃ letter blanks, (∀ c ∈ blanks, isBlank c = true) ∧
      Moment.letterText letter ++ blanks = [separator] := by
    obtain rfl | rfl := hseparator
    · exact ⟨true, [], List.forall_mem_nil _, rfl⟩
    · exact ⟨false, [' '], List.forall_mem_singleton.2 rfl, rfl⟩
  refine ⟨.inUtc (dateParts t) letter (clockParts t blanks withSeconds),
    .inUtc hd (isProper_clockParts ht hblanks withSeconds) (.inl hd'.day.width), ?_, ?_⟩
  · rw [Moment.text, text_clockParts, text_dateParts, ← List.append_assoc _ blanks, hgap]
    rfl
  · rw [Moment.wholeSeconds, wholeSecond_clockParts ht blanks hsecond, date_dateParts, seconds]

theorem exists_moment_zone (ht : t.IsProper) (hdate : t.date.Exists) {zone : Zone}
    (hzone : zone.IsProper) : ∃ m : Moment, m.IsProper ∧
      m.text = t.dateText ++ 'T' :: (t.clockText ++ zone.text) ∧
      m.wholeSeconds = 86400 * t.date.dayNumber + t.secondOfDay - zone.seconds := by
  obtain ⟨hd, hd'⟩ := isProper_dateParts ht hdate
  refine ⟨.withOffset (dateParts t) 'T' (clockParts t [] true) zone, .withOffset hd hd' (.inl rfl)
    (isProper_clockParts ht (List.forall_mem_nil _) true) (isFull_clockParts ht) hzone, ?_, ?_⟩
  · rw [Moment.text, text_clockParts, text_dateParts]
    rfl
  · rw [Moment.wholeSeconds, wholeSecond_clockParts ht [] (by simp), date_dateParts, seconds]

theorem Spelling.exists_moment (ht : t.IsProper) (hdate : t.date.Exists)
    (h : Spelling t text offset) : ∃ m : Moment, m.IsProper ∧ m.text = text ∧
      m.wholeSeconds = 86400 * t.date.dayNumber + t.secondOfDay - offset := by
  cases h with
  | clock hseparator =>
    rw [Int.sub_zero]
    exact exists_moment_utc ht hdate hseparator true (by simp)
  | minute hseparator hsecond =>
    rw [Int.sub_zero]
    exact exists_moment_utc ht hdate hseparator false fun _ => hsecond
  | utc =>
    have hzone : (Zone.utc 'Z').IsProper := .utc (.inl rfl)
    exact exists_moment_zone ht hdate hzone
  | @shift sign hour minute hsign hhour hminute =>
    have hfield {n hi : Nat} (hn : n ≤ hi) (hhi : hi < 100) :
        (fieldOf [] n).IsProper 0 hi ∧ (fieldOf [] n).IsFull :=
      ⟨isProper_fieldOf (List.forall_mem_nil _) ⟨Nat.zero_le _, hn⟩ hhi, isFull_fieldOf (by omega)⟩
    have hzone : (Zone.shift sign (fieldOf [] hour) (fieldOf [] minute)).IsProper :=
      .shift (hsign.imp_right .inl) (hfield hhour (by decide)).1 (hfield hhour (by decide)).2
        (hfield hminute (by decide)).1 (hfield hminute (by decide)).2
    have hmoment := exists_moment_zone ht hdate hzone
    rwa [Zone.seconds, value_fieldOf, value_fieldOf] at hmoment
  | date hmidnight =>
    obtain ⟨hd, -⟩ := isProper_dateParts ht hdate
    refine ⟨.date (dateParts t), .date hd, text_dateParts t, ?_⟩
    rw [Moment.wholeSeconds, date_dateParts, seconds, DateTime.secondOfDay]
    omega

/-! ## Where spellings begin and end -/

theorem Spelling.exists_rest (h : Spelling t text offset) : ∃ rest, text = t.dateText ++ rest := by
  cases h with
  | date => exact ⟨[], (List.append_nil _).symm⟩
  | _ => exact ⟨_, rfl⟩

theorem isBlank_padded {width n : Nat} : ∀ c ∈ padded width n, isBlank c = false :=
  fun _ hc => IsNumberChar.not_blank (.inl (isDigit_of_mem_padded hc))

theorem Spelling.exists_end (ht : t.IsProper) (h : Spelling t text offset) :
    ∃ front last, text = front ++ last ∧ last ≠ [] ∧ ∀ c ∈ last, isBlank c = false := by
  have hlast {cs : List Char} {n : Nat} (hn : n ≤ 99) (front : List Char)
      (hcs : cs = front ++ padded 2 n) :
      ∃ front last, cs = front ++ last ∧ last ≠ [] ∧ ∀ c ∈ last, isBlank c = false :=
    ⟨front, padded 2 n, hcs, padded_ne_nil (by decide) (by omega), isBlank_padded⟩
  obtain ⟨-, -, hday, -, hminute, hsecond⟩ := ht
  cases h with
  | @clock separator hseparator =>
    exact hlast (n := t.second) (by omega) (t.dateText ++ separator :: (t.minuteText ++ [':']))
      (by simp [DateTime.clockText])
  | utc => exact ⟨t.dateText ++ 'T' :: t.clockText, ['Z'], by simp, by simp,
    List.forall_mem_singleton.2 rfl⟩
  | @shift sign hour minute hsign hhour hminute =>
    exact hlast (n := minute) (by omega)
      (t.dateText ++ 'T' :: (t.clockText ++ sign :: (padded 2 hour ++ [':']))) (by simp)
  | @minute separator hseparator =>
    exact hlast (n := t.minute) (by omega)
      (t.dateText ++ separator :: (padded 2 t.hour ++ [':'])) (by simp [DateTime.minuteText])
  | date =>
    exact hlast hday (padded 4 t.year ++ '-' :: (padded 2 t.month ++ ['-']))
      (by simp [DateTime.dateText])

theorem Spelling.trim_eq (ht : t.IsProper) (h : Spelling t text offset) : trim text = text := by
  obtain ⟨rest, hrest⟩ := h.exists_rest
  obtain ⟨front, last, hlast, hne, hblank⟩ := h.exists_end ht
  refine trim_of_ends (fun c hc => ?_) (fun c hc => ?_)
  · have hyear := year_ne_nil ht
    rw [hrest, DateTime.dateText, List.append_assoc, List.head?_append_of_ne_nil _ hyear] at hc
    exact isBlank_padded c (List.mem_of_mem_head? hc)
  · rw [hlast, List.getLast?_append_of_ne_nil _ hne] at hc
    exact hblank c (List.mem_of_getLast? hc)

/-! ## Calendar times -/

theorem dayNumber_bounds {d : Date} (h : d.Exists) (hyear : 0 ≤ d.year ∧ d.year ≤ 9999) :
    -1000000 ≤ d.dayNumber ∧ d.dayNumber ≤ 4000000 := by
  have hday := h.dayOfYear_spec.1
  rw [Date.yearLength_eq] at hday
  rw [h.dayNumber_eq, Date.daysBeforeYear, Date.epochDay]
  split_ifs at hday <;> omega

theorem Spelling.offset_bounds (h : Spelling t text offset) : -86400 < offset ∧ offset < 86400 := by
  cases h with
  | shift hsign hhour hminute => split_ifs <;> omega
  | _ => decide

theorem read_intText (s : Timestamp) : read (String.ofList (intText s.toInt)) = some s := by
  have hplain : ∀ c ∈ intText s.toInt, isBlank c = false := by
    intro c hc
    obtain rfl | hdigit := isDigit_of_mem_intText hc
    · rfl
    · exact IsNumberChar.not_blank (.inl hdigit)
  refine read_eq_some_iff.2 ⟨.seconds (s.toInt < 0) (natText s.toInt.natAbs),
    .seconds _ (areDigits_natText _) (natText_ne_nil _), ?_, ?_⟩
  · rw [String.toList_ofList, trim_of_not_blank hplain, Moment.text, intText, signed]
    simp only [decide_eq_true_eq]
  · rw [Moment.wholeSeconds, spelled_natText]
    simp only [decide_eq_true_eq]
    split_ifs <;> omega

/-- All spellings of a date and a time of day that exist are read as the same calendar time, less
the offset: the days since 1 January 1970 and the second of the day. So is the decimal text of
that number. Where the date does not exist, no spelling is read. -/
theorem read_spellings {t : DateTime} (ht : t.IsProper) :
    (t.date.Exists → (∃ days, Date.IsDaysFrom days Date.epoch t.date) ∧
      ∀ days, Date.IsDaysFrom days Date.epoch t.date → ∀ text offset, Spelling t text offset →
        ∃ s : Timestamp,
          s.toInt = 86400 * days + 3600 * t.hour + 60 * t.minute + t.second - offset ∧
          read (String.ofList text) = some s ∧ read (String.ofList (intText s.toInt)) = some s) ∧
    (¬ t.date.Exists → ∀ text offset, Spelling t text offset →
      read (String.ofList text) = none) := by
  constructor
  · intro hdate
    refine ⟨⟨_, (Date.isDaysFrom_epoch_iff hdate).2 rfl⟩, ?_⟩
    intro days hdays text offset h
    obtain rfl := (Date.isDaysFrom_epoch_iff hdate).1 hdays
    obtain ⟨m, hm, htext, hseconds⟩ := h.exists_moment ht hdate
    have hsize := dayNumber_bounds hdate ⟨Int.natCast_nonneg _, Int.ofNat_le.2 ht.year⟩
    have hsize' := h.offset_bounds
    have hhour := ht.hour
    have hminute := ht.minute
    have hsecond := ht.second
    obtain ⟨s, hs⟩ : ∃ s : Timestamp, s.toInt = m.wholeSeconds := by
      rw [hseconds, DateTime.secondOfDay]
      exact ⟨_, Int64.toInt_ofInt_of_le (by omega) (by omega)⟩
    refine ⟨s, ?_, read_eq_some_iff.2 ⟨m, hm, ?_, hs.symm⟩, read_intText s⟩
    · rw [hs, hseconds, DateTime.secondOfDay]
      push_cast
      omega
    · rw [String.toList_ofList, h.trim_eq ht, htext]
  · intro hdate text offset h
    obtain ⟨rest, hrest⟩ := h.exists_rest
    rw [read_eq, String.toList_ofList, h.trim_eq ht, hrest, readInteger_dateText ht,
      readDated_eq_none (date_dateText ht hdate rest)]
    rfl

theorem read_spellings_turn_of_century :
    DateTime.IsProper ⟨1999, 12, 31, 23, 30, 0⟩ ∧
      Date.IsDaysFrom 10956 Date.epoch ⟨1999, 12, 31⟩ ∧
      (∃ s : Timestamp, s.toInt = 946686600 ∧ read "1999-12-31T23:30:00-01:00" = some s ∧
        read "946686600" = some s) ∧
      DateTime.IsProper ⟨1900, 2, 29, 0, 0, 0⟩ ∧ read "1900-02-29" = none := by
  have ht : DateTime.IsProper ⟨1999, 12, 31, 23, 30, 0⟩ := by constructor <;> decide
  have ht' : DateTime.IsProper ⟨1900, 2, 29, 0, 0, 0⟩ := by constructor <;> decide
  have hdate : Date.Exists ⟨1999, 12, 31⟩ := Date.isValid_iff_exists.1 (by decide)
  have hdate' : ¬ Date.Exists ⟨1900, 2, 29⟩ := mt Date.isValid_iff_exists.2 (by decide)
  have hdays : Date.IsDaysFrom 10956 Date.epoch ⟨1999, 12, 31⟩ :=
    (Date.isDaysFrom_epoch_iff hdate).2 (by decide)
  have hspelling : Spelling ⟨1999, 12, 31, 23, 30, 0⟩ "1999-12-31T23:30:00-01:00".toList (-3600) :=
    @Spelling.shift _ '-' 1 0 (.inr rfl) (by decide) (by decide)
  have hspelling' : Spelling ⟨1900, 2, 29, 0, 0, 0⟩ "1900-02-29".toList 0 := .date ⟨rfl, rfl, rfl⟩
  obtain ⟨s, hs, hread, hread'⟩ := ((read_spellings ht).1 hdate).2 _ hdays _ _ hspelling
  have hs' : s.toInt = 946686600 := hs
  have hdecimal : String.ofList (intText 946686600) = "946686600" := by decide
  rw [hs', hdecimal] at hread'
  rw [String.ofList_toList] at hread
  have hnone := (read_spellings ht').2 hdate' _ _ hspelling'
  rw [String.ofList_toList] at hnone
  exact ⟨ht, hdays, ⟨s, hs', hread, hread'⟩, ht', hnone⟩

end

end Timestamp

end ListenQuery

import ListenQuery.Proofs.Number.Literal
import ListenQuery.Proofs.Time.Moment

/-!
# Reading moments

Each part of a time is read where its text stands and nothing more of it could follow, and only
there. So each way to read a time reads the texts of the moments that are written in that way, as
their whole seconds.
-/

namespace ListenQuery

open Number Text

namespace Timestamp

/-! ## Digits -/

section

variable {least most lo hi n : Nat} {cs rest : List Char}

theorem stopsDigits_nil : StopsDigits [] := by simp [StopsDigits]

theorem stopsDigits_cons {c : Char} (hc : isDigit c = false) : StopsDigits (c :: rest) := by
  simpa [StopsDigits] using hc

theorem takeWhile_take_append {ds : List Char} (hds : AreDigits ds) (hmost : ds.length ≤ most)
    (hend : ds.length = most ∨ StopsDigits rest) :
    ((ds ++ rest).take most).takeWhile isDigit = ds := by
  obtain rfl | hstop := hend
  · rw [List.take_left, List.takeWhile_eq_self_iff.2 hds]
  · rw [← List.take_takeWhile, takeWhile_append_stop hds hstop, List.take_of_length_le hmost]

theorem digits_eq_some_iff :
    digits least most cs = some (n, rest) ↔ ∃ ds, AreDigits ds ∧ least ≤ ds.length ∧
      ds.length ≤ most ∧ (ds.length = most ∨ StopsDigits rest) ∧ cs = ds ++ rest ∧
      n = spelled ds := by
  constructor
  · intro h
    obtain ⟨ds, hds⟩ : ∃ ds, (cs.take most).takeWhile isDigit = ds := ⟨_, rfl⟩
    rw [digits, hds] at h
    simp only [Option.ite_none_left_eq_some, Option.some.injEq, Prod.mk.injEq, Nat.not_lt] at h
    obtain ⟨hleast, rfl, rfl⟩ := h
    rw [← List.take_takeWhile] at hds
    have hcs : ds ++ cs.drop ds.length = cs := by
      have hprefix : ds <+: cs := hds ▸ (List.take_prefix _ _).trans (List.takeWhile_prefix _)
      rw [List.prefix_iff_eq_append] at hprefix
      exact hprefix
    refine ⟨ds, ?_, hleast, hds ▸ List.length_take_le _ _, ?_, hcs.symm, rfl⟩
    · rw [← hds]
      exact fun c hc => List.mem_takeWhile_imp (List.mem_of_mem_take hc)
    · rcases Nat.lt_or_ge (cs.takeWhile isDigit).length most with hlt | hge
      · rw [List.take_of_length_le hlt.le] at hds
        have hrest : ds ++ cs.drop ds.length = ds ++ cs.dropWhile isDigit := by
          rw [hcs, ← hds, List.takeWhile_append_dropWhile]
        rw [List.append_cancel_left hrest]
        exact .inr (head?_dropWhile_stop isDigit cs)
      · exact .inl (by rw [← hds, List.length_take_of_le hge])
  · intro h
    obtain ⟨ds, hds, hleast, hmost, hend, rfl, rfl⟩ := h
    rw [digits, takeWhile_take_append hds hmost hend, List.drop_left]
    simp [hleast]

theorem expect_eq_some_iff {c : Char} : expect c cs = some rest ↔ cs = c :: rest := by
  cases cs with
  | nil => simp [expect]
  | cons d cs => simp [expect]

/-! ## Fields -/

theorem exists_blanks (cs : List Char) :
    ∃ blanks tail, (∀ c ∈ blanks, isBlank c = true) ∧ cs = blanks ++ tail ∧ trimStart cs = tail :=
  ⟨cs.takeWhile isBlank, trimStart cs, fun _ => List.mem_takeWhile_imp,
    List.takeWhile_append_dropWhile.symm, rfl⟩

theorem trimStart_digits {blanks ds : List Char} (hblanks : ∀ c ∈ blanks, isBlank c = true)
    (hds : AreDigits ds) (hne : ds ≠ []) : trimStart (blanks ++ (ds ++ rest)) = ds ++ rest := by
  rw [trimStart_append_blank hblanks, trimStart_of_head]
  intro c hc
  rw [List.head?_append_of_ne_nil _ hne] at hc
  exact IsNumberChar.not_blank (.inl (hds c (List.mem_of_mem_head? hc)))

theorem Field.IsProper.digits_ne_nil {f : Field} (h : f.IsProper lo hi) : f.digits ≠ [] := by
  intro hnil
  have hwidth := h.width.1
  simp [hnil] at hwidth

theorem shortNumber_eq_some_iff :
    shortNumber lo hi cs = some (n, rest) ↔ ∃ f : Field, f.IsProper lo hi ∧ f.EndsBefore rest ∧
      cs = f.text ++ rest ∧ n = f.value := by
  simp only [shortNumber, Option.bind_eq_bind, Option.bind_eq_some_iff, Prod.exists,
    Option.ite_none_right_eq_some, Option.some.injEq, Prod.mk.injEq, digits_eq_some_iff]
  constructor
  · intro h
    obtain ⟨_, _, ⟨ds, hds, hleast, hmost, hend, hcs, rfl⟩, hbounds, rfl, rfl⟩ := h
    obtain ⟨blanks, tail, hblanks, rfl, htail⟩ := exists_blanks cs
    refine ⟨⟨blanks, ds⟩, ⟨hblanks, hds, ⟨hleast, hmost⟩, hbounds⟩, hend, ?_, rfl⟩
    rw [← htail, hcs, Field.text, List.append_assoc]
  · intro h
    obtain ⟨f, hf, hend, rfl, rfl⟩ := h
    refine ⟨_, _, ⟨f.digits, hf.digits, hf.width.1, hf.width.2, hend, ?_, rfl⟩, hf.bounds, rfl, rfl⟩
    rw [Field.text, List.append_assoc, trimStart_digits hf.blank hf.digits hf.digits_ne_nil]

theorem fullNumber_eq_some_iff :
    fullNumber lo hi cs = some (n, rest) ↔ ∃ f : Field, f.IsProper lo hi ∧ f.IsFull ∧
      cs = f.text ++ rest ∧ n = f.value := by
  simp only [fullNumber, Option.bind_eq_bind, Option.bind_eq_some_iff, Prod.exists,
    Option.ite_none_right_eq_some, Option.some.injEq, Prod.mk.injEq, digits_eq_some_iff]
  constructor
  · intro h
    obtain ⟨_, _, ⟨ds, hds, hleast, hmost, -, rfl, rfl⟩, hbounds, rfl, rfl⟩ := h
    have hwidth : ds.length = 2 := Nat.le_antisymm hmost hleast
    exact ⟨⟨[], ds⟩, ⟨by simp, hds, ⟨by simp [hwidth], hmost⟩, hbounds⟩, ⟨rfl, hwidth⟩, rfl, rfl⟩
  · intro h
    obtain ⟨f, hf, hfull, rfl, rfl⟩ := h
    refine ⟨_, _, ⟨f.digits, hf.digits, hfull.width.ge, hf.width.2, .inl hfull.width, ?_, rfl⟩,
      hf.bounds, rfl, rfl⟩
    rw [Field.text, hfull.blank, List.nil_append]

/-! ## Dates -/

theorem year_blanks {blanks : List Char} (hblanks : ∀ c ∈ blanks, isBlank c = true) :
    year (blanks ++ cs) = year cs := by
  rw [year, year, trimStart_append_blank hblanks]

theorem year_digits {ds : List Char} (hds : AreDigits ds) (hne : ds ≠ []) :
    year (ds ++ rest) = (digits 1 4 (ds ++ rest)).map fun (n, cs) => ((n : Int), cs) := by
  obtain ⟨first, ds, rfl⟩ := List.exists_cons_of_ne_nil hne
  have hfirst := hds first List.mem_cons_self
  have hminus : first ≠ '-' := by
    rintro rfl
    cases hfirst
  have hplus : first ≠ '+' := by
    rintro rfl
    cases hfirst
  have htrim : trimStart (first :: ds ++ rest) = first :: ds ++ rest :=
    trimStart_digits (List.forall_mem_nil _) hds hne
  rw [List.cons_append] at htrim
  rw [List.cons_append, year, htrim]
  simp [hminus, hplus]

theorem digits_length_eq_some_iff :
    digits 1 cs.length cs = some (n, rest) ↔ ∃ ds, AreDigits ds ∧ ds ≠ [] ∧ StopsDigits rest ∧
      cs = ds ++ rest ∧ n = spelled ds := by
  rw [digits_eq_some_iff]
  constructor
  · intro h
    obtain ⟨ds, hds, hleast, -, hend, rfl, rfl⟩ := h
    refine ⟨ds, hds, List.ne_nil_of_length_pos hleast, ?_, rfl, rfl⟩
    obtain hall | hstop := hend
    · obtain rfl : rest = [] := by simpa using hall
      exact stopsDigits_nil
    · exact hstop
  · intro h
    obtain ⟨ds, hds, hne, hstop, rfl, rfl⟩ := h
    exact ⟨ds, hds, List.length_pos_of_ne_nil hne, by simp, .inr hstop, rfl, rfl⟩

theorem year_eq_some_iff {n : Int} :
    year cs = some (n, rest) ↔ ∃ y : YearText, y.IsProper ∧
      (y.sign = [] ∧ y.digits.length = 4 ∨ StopsDigits rest) ∧ cs = y.text ++ rest ∧
      n = y.value := by
  constructor
  · intro h
    obtain ⟨blanks, tail, hblanks, rfl, htail⟩ := exists_blanks cs
    rw [year, htail] at h
    clear htail
    split at h
    · simp only [Option.map_eq_some_iff, Prod.exists, digits_length_eq_some_iff, Prod.mk.injEq] at h
      obtain ⟨_, _, ⟨ds, hds, hne, hstop, rfl, rfl⟩, rfl, rfl⟩ := h
      exact ⟨⟨blanks, ['-'], ds⟩, ⟨hblanks, .inl rfl, hds, hne⟩, .inr hstop,
        by simp [YearText.text], by simp [YearText.value]⟩
    · simp only [Option.map_eq_some_iff, Prod.exists, digits_length_eq_some_iff, Prod.mk.injEq] at h
      obtain ⟨_, _, ⟨ds, hds, hne, hstop, rfl, rfl⟩, rfl, rfl⟩ := h
      exact ⟨⟨blanks, ['+'], ds⟩, ⟨hblanks, .inr (.inl rfl), hds, hne⟩, .inr hstop,
        by simp [YearText.text], by simp [YearText.value]⟩
    · simp only [Option.map_eq_some_iff, Prod.exists, digits_eq_some_iff, Prod.mk.injEq] at h
      obtain ⟨_, _, ⟨ds, hds, hleast, hmost, hend, rfl, rfl⟩, rfl, rfl⟩ := h
      exact ⟨⟨blanks, [], ds⟩, ⟨hblanks, .inr (.inr ⟨rfl, hmost⟩), hds,
        List.ne_nil_of_length_pos hleast⟩, hend.imp (.intro rfl) id,
        by simp [YearText.text], by simp [YearText.value]⟩
  · intro h
    obtain ⟨y, hy, hend, rfl, rfl⟩ := h
    obtain ⟨blanks, sign, ds⟩ := y
    obtain ⟨hblanks, hsign, hds, hne⟩ := hy
    have htext : YearText.text ⟨blanks, sign, ds⟩ ++ rest = blanks ++ (sign ++ (ds ++ rest)) := by
      simp [YearText.text]
    rw [htext, year_blanks hblanks]
    obtain rfl | rfl | ⟨rfl, hmost⟩ := hsign
    · have hstop := hend.resolve_left (by simp)
      have hread := digits_length_eq_some_iff.2 ⟨ds, hds, hne, hstop, rfl, rfl⟩
      rw [List.singleton_append, year, trimStart_of_head (by rintro _ ⟨⟩; rfl)]
      simp only [hread, Option.map_some, YearText.value]
      simp
    · have hstop := hend.resolve_left (by simp)
      have hread := digits_length_eq_some_iff.2 ⟨ds, hds, hne, hstop, rfl, rfl⟩
      rw [List.singleton_append, year, trimStart_of_head (by rintro _ ⟨⟩; rfl)]
      simp only [hread, Option.map_some, YearText.value]
      simp
    · have hread := digits_eq_some_iff.2 ⟨ds, hds, List.length_pos_of_ne_nil hne, hmost,
        hend.imp And.right id, rfl, rfl⟩
      rw [List.nil_append, year_digits hds hne, hread]
      simp [YearText.value]

theorem checked_eq_some_iff {d d' : Date} :
    checked d = some d' ↔ (Date.firstYear ≤ d.year ∧ d.year ≤ Date.lastYear) ∧
      d.isValid = true ∧ d = d' := by
  simp [checked, and_assoc]

theorem date_eq_some_iff {d : Date} :
    date cs = some (d, rest) ↔ ∃ t : DateText, t.IsProper ∧ t.day.EndsBefore rest ∧
      cs = t.text ++ rest ∧ d = t.date := by
  simp only [date, Option.bind_eq_bind, Option.bind_eq_some_iff, Prod.exists, Option.some.injEq,
    Prod.mk.injEq, year_eq_some_iff, expect_eq_some_iff, shortNumber_eq_some_iff,
    checked_eq_some_iff]
  constructor
  · intro h
    obtain ⟨_, _, ⟨y, hy, -, rfl, rfl⟩, _, rfl, _, _, ⟨month, hmonth, -, rfl, rfl⟩, _, rfl, _, _,
      ⟨day, hday, hend, rfl, rfl⟩, _, ⟨hkept, hvalid, rfl⟩, rfl, rfl⟩ := h
    refine ⟨⟨y, month, day⟩, ⟨hy, hmonth, hday, hkept, hvalid⟩, hend, ?_, rfl⟩
    simp [DateText.text]
  · intro h
    obtain ⟨t, ht, hend, rfl, rfl⟩ := h
    have hdash (cs : List Char) : StopsDigits ('-' :: cs) := stopsDigits_cons rfl
    refine ⟨_, _, ⟨t.year, ht.year, .inr (hdash _), ?_, rfl⟩, _, rfl, _, _,
      ⟨t.month, ht.month, .inr (hdash _), rfl, rfl⟩, _, rfl, _, _, ⟨t.day, ht.day, hend, rfl, rfl⟩,
      _, ⟨ht.kept, ht.valid, rfl⟩, rfl, rfl⟩
    simp [DateText.text]

/-! ## Times of day -/

theorem skipFraction_eq_some_iff :
    skipFraction cs = some rest ↔ ∃ ds, AreDigits ds ∧ FractionEnds ds rest ∧
      cs = fractionText ds ++ rest := by
  constructor
  · intro h
    unfold skipFraction at h
    split at h
    · next tail =>
      simp only [Option.ite_none_right_eq_some, Option.some.injEq] at h
      obtain ⟨hlt, rfl⟩ := h
      have hsplit := List.takeWhile_append_dropWhile (p := isDigit) (l := tail)
      have hne : tail.takeWhile isDigit ≠ [] := by
        intro hnil
        rw [hnil, List.nil_append] at hsplit
        rw [hsplit] at hlt
        exact Nat.lt_irrefl _ hlt
      refine ⟨tail.takeWhile isDigit, fun _ => List.mem_takeWhile_imp, ?_, ?_⟩
      · rw [FractionEnds, if_neg hne]
        exact head?_dropWhile_stop isDigit tail
      · rw [fractionText, if_neg hne, List.cons_append, hsplit]
    · next hpoint =>
      obtain rfl := Option.some.inj h
      refine ⟨[], by simp [AreDigits], ?_, rfl⟩
      rw [FractionEnds, if_pos rfl]
      intro hhead
      obtain ⟨tail, rfl⟩ := List.head?_eq_some_iff.1 hhead
      exact hpoint tail rfl
  · intro h
    obtain ⟨ds, hds, hends, rfl⟩ := h
    unfold FractionEnds at hends
    unfold fractionText
    split_ifs at hends ⊢ with hnil
    · rw [List.nil_append]
      cases rest with
      | nil => rfl
      | cons c rest =>
        have hc : c ≠ '.' := by simpa using hends
        simp [skipFraction, hc]
    · rw [List.cons_append, skipFraction, dropWhile_append_stop hds hends]
      simp [List.length_pos_of_ne_nil hnil]

theorem timeOfDay_eq_some_iff {withSeconds : Bool} :
    timeOfDay withSeconds cs = some (n, rest) ↔ ∃ c : ClockText, c.second.isSome = withSeconds ∧
      c.IsProper ∧ c.EndsBefore rest ∧ cs = c.text ++ rest ∧ n = c.wholeSecond := by
  have hcolon (cs : List Char) : StopsDigits (':' :: cs) := stopsDigits_cons rfl
  cases withSeconds with
  | false =>
    simp only [timeOfDay, Option.bind_eq_bind, Option.bind_eq_some_iff, Prod.exists,
      Option.some.injEq, Prod.mk.injEq, expect_eq_some_iff, shortNumber_eq_some_iff,
      Bool.false_eq_true, if_false]
    constructor
    · intro h
      obtain ⟨_, _, ⟨hour, hhour, -, rfl, rfl⟩, _, rfl, _, _, ⟨minute, hminute, hend, rfl, rfl⟩,
        rfl, rfl⟩ := h
      exact ⟨⟨hour, minute, none⟩, rfl, ⟨hhour, hminute, by simp⟩, hend,
        by simp [ClockText.text, ClockText.secondText], rfl⟩
    · intro h
      obtain ⟨⟨hour, minute, second⟩, hsecond, hc, hend, rfl, rfl⟩ := h
      obtain rfl : second = none := by simpa using hsecond
      exact ⟨_, _, ⟨hour, hc.hour, .inr (hcolon _), by simp [ClockText.text]; rfl, rfl⟩, _, rfl, _, _,
        ⟨minute, hc.minute, hend, by simp [ClockText.secondText], rfl⟩, rfl, rfl⟩
  | true =>
    simp only [timeOfDay, Option.bind_eq_bind, Option.bind_eq_some_iff, Prod.exists,
      Option.some.injEq, Prod.mk.injEq, expect_eq_some_iff, shortNumber_eq_some_iff,
      skipFraction_eq_some_iff, if_true]
    constructor
    · intro h
      obtain ⟨_, _, ⟨hour, hhour, -, rfl, rfl⟩, _, rfl, _, _, ⟨minute, hminute, -, rfl, rfl⟩,
        _, rfl, _, _, ⟨second, hsecond, hend, rfl, rfl⟩, _, ⟨ds, hds, hends, rfl⟩, rfl, rfl⟩ := h
      refine ⟨⟨hour, minute, some ⟨second, ds⟩⟩, rfl, ⟨hhour, hminute, ?_⟩, ⟨hend, hends⟩, ?_, rfl⟩
      · rintro _ ⟨⟩
        exact ⟨hsecond, hds⟩
      · simp [ClockText.text, ClockText.secondText, SecondText.text]
    · intro h
      obtain ⟨⟨hour, minute, second⟩, hsecond, hc, hend, rfl, rfl⟩ := h
      obtain ⟨second, rfl⟩ := Option.isSome_iff_exists.1 hsecond
      have hproper := hc.second second rfl
      refine ⟨_, _, ⟨hour, hc.hour, .inr (hcolon _), ?_, rfl⟩, _, rfl, _, _,
        ⟨minute, hc.minute, .inr (hcolon _), rfl, rfl⟩, _, rfl, _, _,
        ⟨second.second, hproper.second, hend.second, rfl, rfl⟩, _,
        ⟨second.fraction, hproper.fraction, hend.fraction, rfl⟩, rfl, rfl⟩
      simp [ClockText.text, ClockText.secondText, SecondText.text]

/-! ## Offsets -/

theorem magnitude_eq_some_iff {sign n : Int} :
    offset.magnitude sign cs = some (n, rest) ↔ ∃ hour minute : Field, hour.IsProper 0 23 ∧
      hour.IsFull ∧ minute.IsProper 0 59 ∧ minute.IsFull ∧
      cs = hour.text ++ ':' :: minute.text ++ rest ∧
      n = sign * (3600 * hour.value + 60 * minute.value : Nat) := by
  simp only [offset.magnitude, Option.bind_eq_bind, Option.bind_eq_some_iff, Prod.exists,
    Option.some.injEq, Prod.mk.injEq, expect_eq_some_iff, fullNumber_eq_some_iff]
  constructor
  · intro h
    obtain ⟨_, _, ⟨hour, hhour, hhour', rfl, rfl⟩, _, rfl, _, _,
      ⟨minute, hminute, hminute', rfl, rfl⟩, rfl, rfl⟩ := h
    exact ⟨hour, minute, hhour, hhour', hminute, hminute', by simp, rfl⟩
  · intro h
    obtain ⟨hour, minute, hhour, hhour', hminute, hminute', rfl, rfl⟩ := h
    exact ⟨_, _, ⟨hour, hhour, hhour', by simp, rfl⟩, _, rfl, _, _,
      ⟨minute, hminute, hminute', rfl, rfl⟩, rfl, rfl⟩

theorem offset_eq_some_iff {n : Int} :
    offset cs = some (n, rest) ↔ ∃ zone : Zone, zone.IsProper ∧ cs = zone.text ++ rest ∧
      n = zone.seconds := by
  constructor
  · intro h
    unfold offset at h
    split at h
    · simp only [Option.some.injEq, Prod.mk.injEq] at h
      obtain ⟨rfl, rfl⟩ := h
      exact ⟨.utc 'Z', .utc (.inl rfl), rfl, rfl⟩
    · simp only [Option.some.injEq, Prod.mk.injEq] at h
      obtain ⟨rfl, rfl⟩ := h
      exact ⟨.utc 'z', .utc (.inr rfl), rfl, rfl⟩
    · obtain ⟨hour, minute, hhour, hhour', hminute, hminute', rfl, rfl⟩ := magnitude_eq_some_iff.1 h
      exact ⟨.shift '+' hour minute, .shift (.inl rfl) hhour hhour' hminute hminute', rfl, rfl⟩
    · obtain ⟨hour, minute, hhour, hhour', hminute, hminute', rfl, rfl⟩ := magnitude_eq_some_iff.1 h
      exact ⟨.shift '-' hour minute, .shift (.inr (.inl rfl)) hhour hhour' hminute hminute', rfl, rfl⟩
    · obtain ⟨hour, minute, hhour, hhour', hminute, hminute', rfl, rfl⟩ := magnitude_eq_some_iff.1 h
      exact ⟨.shift '−' hour minute, .shift (.inr (.inr rfl)) hhour hhour' hminute hminute', rfl, rfl⟩
    · cases h
  · intro h
    obtain ⟨zone, hzone, rfl, rfl⟩ := h
    cases hzone with
    | utc hletter =>
      obtain rfl | rfl := hletter <;> rfl
    | @shift sign hour minute hsign hhour hhour' hminute hminute' =>
      obtain rfl | rfl | rfl := hsign
      all_goals
        exact magnitude_eq_some_iff.2 ⟨hour, minute, hhour, hhour', hminute, hminute', rfl, rfl⟩

end

/-! ## Moments -/

section

variable {cs : List Char} {n : Int}

theorem finished_eq_some_iff {α : Type} {p : α × List Char} {x : α} :
    finished p = some x ↔ p = (x, []) := by
  obtain ⟨y, _ | ⟨c, rest⟩⟩ := p <;> simp [finished]

theorem inRange_eq_some_iff {t : Timestamp} : inRange n = some t ↔ n = t.toInt := by
  simp only [inRange, Bool.and_eq_true, decide_eq_true_eq, Option.ite_none_right_eq_some,
    Option.some.injEq]
  constructor
  · intro h
    obtain ⟨⟨hlo, hhi⟩, rfl⟩ := h
    exact (Int64.toInt_ofInt_of_le hlo hhi).symm
  · intro h
    subst h
    exact ⟨⟨Int64.le_toInt t, Int64.toInt_lt t⟩, Int64.ofInt_toInt t⟩

theorem readInteger_signed (negative : Bool) {ds : List Char} (hds : AreDigits ds)
    (hne : ds ≠ []) :
    readInteger (signed negative ds) = some (Moment.seconds negative ds).wholeSeconds := by
  have hall : ds.all isDigit = true := List.all_eq_true.2 hds
  cases negative with
  | true => simp [signed, readInteger, hne, hall, Moment.wholeSeconds]
  | false =>
    obtain ⟨first, more, rfl⟩ := List.exists_cons_of_ne_nil hne
    have hminus : first ≠ '-' := by
      rintro rfl
      cases hds '-' List.mem_cons_self
    simp [signed, readInteger, hminus, hall, Moment.wholeSeconds]

theorem readInteger_eq_some_iff :
    readInteger cs = some n ↔ ∃ negative ds, AreDigits ds ∧ ds ≠ [] ∧ cs = signed negative ds ∧
      n = (Moment.seconds negative ds).wholeSeconds := by
  constructor
  · intro h
    obtain ⟨negative, ds, hds, hne, rfl⟩ :
        ∃ negative ds, AreDigits ds ∧ ds ≠ [] ∧ cs = signed negative ds := by
      unfold readInteger at h
      split at h
      next negative ds hsign =>
      simp only [Option.ite_none_right_eq_some, Bool.and_eq_true, Bool.not_eq_true',
        List.isEmpty_eq_false_iff, List.all_eq_true] at h
      obtain ⟨⟨hne, hds⟩, -⟩ := h
      refine ⟨negative, ds, hds, hne, ?_⟩
      split at hsign <;> cases hsign <;> rfl
    exact ⟨negative, ds, hds, hne, rfl,
      Option.some.inj (h.symm.trans (readInteger_signed negative hds hne))⟩
  · intro h
    obtain ⟨negative, ds, hds, hne, rfl, rfl⟩ := h
    exact readInteger_signed negative hds hne

theorem readDate_eq_some_iff :
    readDate cs = some n ↔ ∃ d : DateText, d.IsProper ∧ cs = d.text ∧
      n = (Moment.date d).wholeSeconds := by
  simp only [readDate, Option.bind_eq_bind, Option.bind_eq_some_iff, finished_eq_some_iff,
    Prod.exists, Prod.mk.injEq, Option.some.injEq, date_eq_some_iff]
  constructor
  · intro h
    obtain ⟨_, _, ⟨d, hd, -, rfl, rfl⟩, _, ⟨rfl, rfl⟩, rfl⟩ := h
    exact ⟨d, hd, List.append_nil _, rfl⟩
  · intro h
    obtain ⟨d, hd, rfl, rfl⟩ := h
    exact ⟨_, _, ⟨d, hd, .inr stopsDigits_nil, (List.append_nil _).symm, rfl⟩, _, ⟨rfl, rfl⟩, rfl⟩

def EndsClock (rest : List Char) : Prop :=
  ∀ c ∈ rest.head?, isDigit c = false ∧ c ≠ '.' ∧ c ≠ ':'

theorem endsClock_nil : EndsClock [] := by simp [EndsClock]

theorem endsClock_zone {zone : Zone} (hzone : zone.IsProper) : EndsClock zone.text := by
  cases hzone with
  | utc hletter => obtain rfl | rfl := hletter <;> simp [EndsClock, Zone.text, isDigit]
  | shift hsign => obtain rfl | rfl | rfl := hsign <;> simp [EndsClock, Zone.text, isDigit]

theorem EndsClock.stopsDigits {rest : List Char} (h : EndsClock rest) : StopsDigits rest :=
  fun c hc => (h c hc).1

theorem EndsClock.fractionEnds {rest : List Char} (h : EndsClock rest) (ds : List Char) :
    FractionEnds ds rest := by
  unfold FractionEnds
  split
  · exact fun hc => (h '.' hc).2.1 rfl
  · exact h.stopsDigits

theorem EndsClock.stopsDigits_fraction {rest : List Char} (h : EndsClock rest) (ds : List Char) :
    StopsDigits (fractionText ds ++ rest) := by
  unfold fractionText
  split
  · exact h.stopsDigits
  · exact stopsDigits_cons rfl

theorem EndsClock.endsBefore {rest : List Char} (h : EndsClock rest) (c : ClockText) :
    c.EndsBefore rest := by
  unfold ClockText.EndsBefore
  split
  · exact .inr h.stopsDigits
  · next s _ => exact ⟨.inr (h.stopsDigits_fraction s.fraction), h.fractionEnds s.fraction⟩

theorem readLocal_eq (letter withSeconds : Bool) (cs : List Char) :
    readLocal letter withSeconds cs = (date cs).bind fun (d, rest) =>
      (if letter then expect 'T' rest else some rest).bind fun rest =>
        (timeOfDay withSeconds rest).bind fun p => (finished p).bind fun second =>
          some (seconds d (second : Nat)) := by
  simp only [readLocal, Option.bind_eq_bind]
  cases letter <;> rfl

theorem letter_eq_some_iff {letter : Bool} {rest tail : List Char} :
    (if letter then expect 'T' rest else some rest) = some tail ↔
      rest = Moment.letterText letter ++ tail := by
  cases letter with
  | false => simp [Moment.letterText]
  | true => simp [Moment.letterText, expect_eq_some_iff]

theorem readLocal_eq_some_iff {letter withSeconds : Bool} :
    readLocal letter withSeconds cs = some n ↔ ∃ d c, c.second.isSome = withSeconds ∧
      (Moment.inUtc d letter c).IsProper ∧ cs = (Moment.inUtc d letter c).text ∧
      n = (Moment.inUtc d letter c).wholeSeconds := by
  simp only [readLocal_eq, Option.bind_eq_some_iff, Option.some.injEq, finished_eq_some_iff,
    Prod.exists, Prod.mk.injEq, date_eq_some_iff, letter_eq_some_iff, timeOfDay_eq_some_iff]
  constructor
  · intro h
    obtain ⟨_, _, ⟨d, hd, hgap, rfl, rfl⟩, _, rfl, _, _, ⟨c, hseconds, hc, -, rfl, rfl⟩, _,
      ⟨rfl, rfl⟩, rfl⟩ := h
    rw [List.append_nil] at hgap ⊢
    exact ⟨d, c, hseconds, .inUtc hd hc hgap, rfl, rfl⟩
  · intro h
    obtain ⟨d, c, hseconds, hproper, rfl, rfl⟩ := h
    cases hproper with
    | inUtc hd hc hgap =>
      exact ⟨_, _, ⟨d, hd, hgap, rfl, rfl⟩, _, rfl, _, _,
        ⟨c, hseconds, hc, endsClock_nil.endsBefore c, (List.append_nil _).symm, rfl⟩,
        _, ⟨rfl, rfl⟩, rfl⟩

theorem separator_eq_some_iff {rest : List Char} :
    separator cs = some rest ↔ ∃ c, (c = 'T' ∨ c = 't' ∨ c = ' ') ∧ cs = c :: rest := by
  cases cs with
  | nil => simp [separator]
  | cons c cs =>
    simp only [separator, Bool.or_eq_true, decide_eq_true_eq, Option.ite_none_right_eq_some,
      Option.some.injEq, List.cons.injEq, or_assoc]
    exact ⟨fun h => ⟨c, h.1, rfl, h.2⟩, by rintro ⟨_, h, rfl, rfl⟩; exact ⟨h, rfl⟩⟩

/-- The date of a time with an offset, which is checked last. -/
def fullDate (cs : List Char) : Option (Date × List Char) := do
  let year ← digits 4 4 cs
  let cs ← expect '-' year.2
  let month ← fullNumber 1 12 cs
  let cs ← expect '-' month.2
  let day ← fullNumber 1 31 cs
  some (⟨year.1, month.1, day.1⟩, day.2)

def fullClock (cs : List Char) : Option (Nat × List Char) := do
  let hour ← fullNumber 0 23 cs
  let cs ← expect ':' hour.2
  let minute ← fullNumber 0 59 cs
  let cs ← expect ':' minute.2
  let second ← fullNumber 0 60 cs
  let cs ← skipFraction second.2
  some (daySecond hour.1 minute.1 second.1, cs)

theorem readWithOffset_eq (cs : List Char) :
    readWithOffset cs = (fullDate cs).bind fun d => (separator d.2).bind fun rest =>
      (fullClock rest).bind fun second => (offset second.2).bind fun p =>
        (finished p).bind fun offset => (checked d.1).bind fun d =>
          some (seconds d second.1 - offset) := by
  -- each part is unfolded in front of a variable, so that what follows it is not looked into
  have hdate (k : Date × List Char → Option Int) := congrArg (·.bind k) (fullDate.eq_1 cs)
  have hclock (rest : List Char) (k : Nat × List Char → Option Int) :=
    congrArg (·.bind k) (fullClock.eq_1 rest)
  simp only [Option.bind_eq_bind, Option.bind_assoc, Option.bind_some] at hdate hclock
  simp only [hclock]
  rw [hdate]
  rfl

theorem fullDate_eq_some_iff {rest : List Char} {d : Date} :
    fullDate cs = some (d, rest) ↔ ∃ t : DateText, t.IsFull ∧ t.year.IsProper ∧
      t.month.IsProper 1 12 ∧ t.day.IsProper 1 31 ∧ cs = t.text ++ rest ∧ d = t.date := by
  simp only [fullDate, Option.bind_eq_bind, Option.bind_eq_some_iff, Prod.exists, Option.some.injEq,
    Prod.mk.injEq, digits_eq_some_iff, expect_eq_some_iff, fullNumber_eq_some_iff]
  constructor
  · intro h
    obtain ⟨_, _, ⟨ds, hds, hleast, hmost, -, rfl, rfl⟩, _, rfl, _, _,
      ⟨month, hmonth, hmonth', rfl, rfl⟩, _, rfl, _, _, ⟨day, hday, hday', rfl, rfl⟩, rfl, rfl⟩ := h
    have hwidth : ds.length = 4 := Nat.le_antisymm hmost hleast
    refine ⟨⟨⟨[], [], ds⟩, month, day⟩, ⟨⟨rfl, rfl, hwidth⟩, hmonth', hday'⟩,
      ⟨by simp, .inr (.inr ⟨rfl, hmost⟩), hds, ?_⟩, hmonth, hday, ?_, rfl⟩
    · rintro rfl
      cases hwidth
    · simp [DateText.text, YearText.text]
  · intro h
    obtain ⟨⟨⟨blanks, sign, ds⟩, month, day⟩, ⟨⟨rfl, rfl, hwidth⟩, hmonth', hday'⟩, hyear, hmonth,
      hday, rfl, rfl⟩ := h
    refine ⟨_, _, ⟨ds, hyear.digits, hwidth.ge, hwidth.le, .inl hwidth, ?_, rfl⟩, _, rfl, _, _,
      ⟨month, hmonth, hmonth', rfl, rfl⟩, _, rfl, _, _, ⟨day, hday, hday', rfl, rfl⟩, rfl, rfl⟩
    simp [DateText.text, YearText.text]

theorem fullClock_eq_some_iff {rest : List Char} {n : Nat} :
    fullClock cs = some (n, rest) ↔ ∃ c : ClockText, c.IsFull ∧ c.IsProper ∧ c.EndsBefore rest ∧
      cs = c.text ++ rest ∧ n = c.wholeSecond := by
  simp only [fullClock, Option.bind_eq_bind, Option.bind_eq_some_iff, Prod.exists,
    Option.some.injEq, Prod.mk.injEq, expect_eq_some_iff, fullNumber_eq_some_iff,
    skipFraction_eq_some_iff]
  constructor
  · intro h
    obtain ⟨_, _, ⟨hour, hhour, hhour', rfl, rfl⟩, _, rfl, _, _, ⟨minute, hminute, hminute', rfl, rfl⟩,
      _, rfl, _, _, ⟨second, hsecond, hsecond', rfl, rfl⟩, _, ⟨ds, hds, hends, rfl⟩, rfl, rfl⟩ := h
    refine ⟨⟨hour, minute, some ⟨second, ds⟩⟩, ⟨hhour', hminute', _, rfl, hsecond'⟩,
      ⟨hhour, hminute, ?_⟩, ⟨.inl hsecond'.width, hends⟩, ?_, rfl⟩
    · rintro _ ⟨⟩
      exact ⟨hsecond, hds⟩
    · simp [ClockText.text, ClockText.secondText, SecondText.text]
  · intro h
    obtain ⟨⟨hour, minute, _⟩, ⟨hhour', hminute', second, rfl, hsecond'⟩, hc, hend, rfl, rfl⟩ := h
    have hproper := hc.second second rfl
    refine ⟨_, _, ⟨hour, hc.hour, hhour', ?_, rfl⟩, _, rfl, _, _,
      ⟨minute, hc.minute, hminute', rfl, rfl⟩, _, rfl, _, _,
      ⟨second.second, hproper.second, hsecond', rfl, rfl⟩, _,
      ⟨second.fraction, hproper.fraction, hend.fraction, rfl⟩, rfl, rfl⟩
    simp [ClockText.text, ClockText.secondText, SecondText.text]

theorem readWithOffset_eq_some_iff :
    readWithOffset cs = some n ↔ ∃ d separator c zone,
      (Moment.withOffset d separator c zone).IsProper ∧
      cs = (Moment.withOffset d separator c zone).text ∧
      n = (Moment.withOffset d separator c zone).wholeSeconds := by
  simp only [readWithOffset_eq, Option.bind_eq_some_iff, Option.some.injEq, finished_eq_some_iff,
    Prod.exists, Prod.mk.injEq, fullDate_eq_some_iff, separator_eq_some_iff, fullClock_eq_some_iff,
    offset_eq_some_iff, checked_eq_some_iff]
  constructor
  · intro h
    obtain ⟨_, _, ⟨d, hd', hyear, hmonth, hday, rfl, rfl⟩, _, ⟨separator, hseparator, rfl⟩, _, _,
      ⟨c, hc', hc, -, rfl, rfl⟩, _, _, ⟨zone, hzone, rfl, rfl⟩, _, ⟨rfl, rfl⟩, _,
      ⟨hkept, hvalid, rfl⟩, rfl⟩ := h
    refine ⟨d, separator, c, zone,
      .withOffset ⟨hyear, hmonth, hday, hkept, hvalid⟩ hd' hseparator hc hc' hzone, ?_, rfl⟩
    rw [List.append_nil]
    rfl
  · intro h
    obtain ⟨d, separator, c, zone, hproper, rfl, rfl⟩ := h
    cases hproper with
    | withOffset hd hd' hseparator hc hc' hzone =>
      refine ⟨_, _, ⟨d, hd', hd.year, hd.month, hd.day, rfl, rfl⟩, _, ⟨separator, hseparator, rfl⟩,
        _, _, ⟨c, hc', hc, (endsClock_zone hzone).endsBefore c, rfl, rfl⟩, _, _,
        ⟨zone, hzone, (List.append_nil _).symm, rfl⟩, _, ⟨rfl, rfl⟩, _, ⟨hd.kept, hd.valid, rfl⟩, rfl⟩

end

end Timestamp

end ListenQuery

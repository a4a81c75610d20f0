import ListenQuery.Proofs.Time.Reading

/-!
# Texts and instants

The parts of a time follow from its text, whatever comes behind them, and the ways to read a time
exclude each other. So a text is a time exactly if it is that of a moment, it is read as the whole
seconds of that moment, and it denotes one instant at most.
-/

namespace ListenQuery

open Number Text

namespace Timestamp

section

variable {cs rest rest' : List Char} {n : Int}

/-! ## How texts begin -/

theorem Field.IsProper.text_cons {f : Field} {lo hi : Nat} (h : f.IsProper lo hi) :
    ∃ c tail, f.text = c :: tail ∧ (isBlank c = true ∨ isDigit c = true) := by
  obtain ⟨blanks, ds⟩ := f
  cases blanks with
  | cons c blanks => exact ⟨c, _, rfl, .inl (h.blank c List.mem_cons_self)⟩
  | nil =>
    obtain ⟨c, ds, rfl⟩ := List.exists_cons_of_ne_nil h.digits_ne_nil
    exact ⟨c, _, rfl, .inr (h.digits c List.mem_cons_self)⟩

theorem ClockText.IsProper.ne_nil {c : ClockText} (h : c.IsProper) : c.text ≠ [] := by
  obtain ⟨first, tail, htext, -⟩ := h.hour.text_cons
  simp [ClockText.text, htext]

theorem ClockText.IsProper.head {c : ClockText} (h : c.IsProper) {first : Char} {tail : List Char}
    (htext : c.text = first :: tail) : isBlank first = true ∨ isDigit first = true := by
  obtain ⟨first', tail', hhour, hfirst⟩ := h.hour.text_cons
  rw [ClockText.text, hhour, List.cons_append] at htext
  rwa [← (List.cons.inj htext).1]

theorem ClockText.IsProper.letter_iff {c c' : ClockText} (h : c.IsProper) (h' : c'.IsProper)
    {letter letter' : Bool}
    (htext : Moment.letterText letter ++ c.text = Moment.letterText letter' ++ c'.text) :
    letter = letter' := by
  have hletter : ¬ (isBlank 'T' = true ∨ isDigit 'T' = true) := by decide
  cases letter with
  | false =>
    cases letter' with
    | false => rfl
    | true => exact absurd (h.head htext) hletter
  | true =>
    cases letter' with
    | false => exact absurd (h'.head htext.symm) hletter
    | true => rfl

/-! ## Parts told by their texts -/

theorem Field.eq_of_text {f f' : Field} {lo hi : Nat} (hf : f.IsProper lo hi)
    (hf' : f'.IsProper lo hi) (hend : f.EndsBefore rest) (hend' : f'.EndsBefore rest')
    (h : f.text ++ rest = f'.text ++ rest') : f.value = f'.value ∧ rest = rest' := by
  have hread := shortNumber_eq_some_iff.2 ⟨f, hf, hend, h.symm, rfl⟩
  have hread' := shortNumber_eq_some_iff.2 ⟨f', hf', hend', rfl, rfl⟩
  exact Prod.mk.inj (Option.some.inj (hread.symm.trans hread'))

theorem fraction_eq_of_text {ds ds' : List Char} (hds : AreDigits ds) (hds' : AreDigits ds')
    (hend : FractionEnds ds rest) (hend' : FractionEnds ds' rest')
    (h : fractionText ds ++ rest = fractionText ds' ++ rest') : ds = ds' ∧ rest = rest' := by
  have hread := skipFraction_eq_some_iff.2 ⟨ds, hds, hend, h.symm⟩
  have hread' := skipFraction_eq_some_iff.2 ⟨ds', hds', hend', rfl⟩
  obtain rfl := Option.some.inj (hread.symm.trans hread')
  have htext := List.append_cancel_right h
  unfold fractionText at htext
  split_ifs at htext with hnil hnil' hnil'
  · exact ⟨hnil.trans hnil'.symm, rfl⟩
  · exact ⟨(List.cons.inj htext).2, rfl⟩

theorem Zone.seconds_eq_of_text {zone zone' : Zone} (hzone : zone.IsProper)
    (hzone' : zone'.IsProper) (h : zone.text = zone'.text) : zone.seconds = zone'.seconds := by
  have hread := offset_eq_some_iff.2 ⟨zone, hzone, (List.append_nil _).symm, rfl⟩
  have hread' := offset_eq_some_iff.2 ⟨zone', hzone', (List.append_nil _).symm, rfl⟩
  rw [h] at hread
  exact (Prod.mk.inj (Option.some.inj (hread.symm.trans hread'))).1

theorem DateText.eq_of_text {d d' : DateText} (hd : d.IsProper) (hd' : d'.IsProper)
    (hend : d.day.EndsBefore rest) (hend' : d'.day.EndsBefore rest')
    (h : d.text ++ rest = d'.text ++ rest') : d.date = d'.date ∧ rest = rest' := by
  have hread := date_eq_some_iff.2 ⟨d, hd, hend, h.symm, rfl⟩
  have hread' := date_eq_some_iff.2 ⟨d', hd', hend', rfl, rfl⟩
  exact Prod.mk.inj (Option.some.inj (hread.symm.trans hread'))

theorem SecondText.eq_of_text {s s' : SecondText} (hs : s.IsProper) (hs' : s'.IsProper)
    (hend : EndsClock rest) (hend' : EndsClock rest') (h : s.text ++ rest = s'.text ++ rest') :
    s.second.value = s'.second.value ∧ s.fraction = s'.fraction ∧ rest = rest' := by
  simp only [SecondText.text, List.append_assoc] at h
  obtain ⟨hsecond, h⟩ := Field.eq_of_text hs.second hs'.second
    (.inr (hend.stopsDigits_fraction _)) (.inr (hend'.stopsDigits_fraction _)) h
  exact ⟨hsecond, fraction_eq_of_text hs.fraction hs'.fraction (hend.fractionEnds _)
    (hend'.fractionEnds _) h⟩

theorem ClockText.minute_endsBefore (c : ClockText) (hend : EndsClock rest) :
    c.minute.EndsBefore (c.secondText ++ rest) := by
  unfold ClockText.secondText
  split
  · exact .inr hend.stopsDigits
  · exact .inr (stopsDigits_cons rfl)

theorem EndsClock.ne_colon (h : EndsClock rest) (tail : List Char) : rest ≠ ':' :: tail := by
  rintro rfl
  exact (h ':' rfl).2.2 rfl

theorem ClockText.second_eq_of_text {c c' : ClockText} (hc : c.IsProper) (hc' : c'.IsProper)
    (hend : EndsClock rest) (hend' : EndsClock rest')
    (h : c.secondText ++ rest = c'.secondText ++ rest') :
    c.second.isSome = c'.second.isSome ∧ c.secondValue = c'.secondValue ∧
      c.fraction = c'.fraction ∧ rest = rest' := by
  obtain ⟨hour, minute, second⟩ := c
  obtain ⟨hour', minute', second'⟩ := c'
  cases second with
  | none =>
    cases second' with
    | none => exact ⟨rfl, rfl, rfl, h⟩
    | some s' => exact absurd h (hend.ne_colon _)
  | some s =>
    cases second' with
    | none => exact absurd h.symm (hend'.ne_colon _)
    | some s' =>
      obtain ⟨hvalue, hfraction, hrest⟩ := SecondText.eq_of_text (hc.second s rfl)
        (hc'.second s' rfl) hend hend' (List.cons.inj h).2
      exact ⟨rfl, hvalue, congrArg fractionValue hfraction, hrest⟩

theorem ClockText.eq_of_text {c c' : ClockText} (hc : c.IsProper) (hc' : c'.IsProper)
    (hend : EndsClock rest) (hend' : EndsClock rest') (h : c.text ++ rest = c'.text ++ rest') :
    c.second.isSome = c'.second.isSome ∧ c.instant = c'.instant ∧ rest = rest' := by
  have hcolon (f : Field) (cs : List Char) : f.EndsBefore (':' :: cs) := .inr (stopsDigits_cons rfl)
  simp only [ClockText.text, List.append_assoc, List.cons_append] at h
  obtain ⟨hhour, h⟩ := Field.eq_of_text hc.hour hc'.hour (hcolon _ _) (hcolon _ _) h
  obtain ⟨hminute, h⟩ := Field.eq_of_text hc.minute hc'.minute (c.minute_endsBefore hend)
    (c'.minute_endsBefore hend') (List.cons.inj h).2
  obtain ⟨hisSome, hsecond, hfraction, hrest⟩ := ClockText.second_eq_of_text hc hc' hend hend' h
  refine ⟨hisSome, ?_, hrest⟩
  rw [ClockText.instant, ClockText.instant, hhour, hminute, hsecond, hfraction]

/-! ## One way to read a text -/

theorem date_of_readLocal {letter withSeconds : Bool}
    (h : readLocal letter withSeconds cs = some n) :
    ∃ d, ∃ c : ClockText, c.IsProper ∧ c.second.isSome = withSeconds ∧
      date cs = some (d, Moment.letterText letter ++ c.text) := by
  obtain ⟨d, c, hseconds, hproper, rfl, -⟩ := readLocal_eq_some_iff.1 h
  cases hproper with
  | inUtc hd hc hgap =>
    exact ⟨d.date, c, hc, hseconds, date_eq_some_iff.2 ⟨d, hd, hgap, rfl, rfl⟩⟩

theorem date_of_readDate (h : readDate cs = some n) : ∃ d, date cs = some (d, []) := by
  obtain ⟨d, hd, rfl, -⟩ := readDate_eq_some_iff.1 h
  exact ⟨d.date, date_eq_some_iff.2 ⟨d, hd, .inr stopsDigits_nil, (List.append_nil _).symm, rfl⟩⟩

theorem date_of_readWithOffset (h : readWithOffset cs = some n) :
    ∃ d separator, ∃ c : ClockText, ∃ zone : Zone,
      (separator = 'T' ∨ separator = 't' ∨ separator = ' ') ∧ c.IsProper ∧ zone.IsProper ∧
        date cs = some (d, separator :: (c.text ++ zone.text)) := by
  obtain ⟨d, separator, c, zone, hproper, rfl, -⟩ := readWithOffset_eq_some_iff.1 h
  cases hproper with
  | withOffset hd hd' hseparator hc hc' hzone =>
    exact ⟨d.date, separator, c, zone, hseparator, hc, hzone,
      date_eq_some_iff.2 ⟨d, hd, .inl hd'.day.width, rfl, rfl⟩⟩

theorem Zone.text_ne_nil (zone : Zone) : zone.text ≠ [] := by
  cases zone <;> simp [Zone.text]

theorem readInteger_of_dash {c : Char} (h : '-' ∈ cs) : readInteger (c :: cs) = none := by
  rw [Option.eq_none_iff_forall_ne_some]
  intro n hn
  obtain ⟨negative, ds, hds, -, htext, -⟩ := readInteger_eq_some_iff.1 hn
  have hdash : '-' ∈ ds := by
    cases negative with
    | true =>
      obtain rfl : cs = ds := (List.cons.inj htext).2
      exact h
    | false =>
      obtain rfl : c :: cs = ds := htext
      exact List.mem_cons_of_mem c h
  cases hds '-' hdash

theorem readInteger_of_date {p : Date × List Char} (h : date cs = some p) :
    readInteger cs = none := by
  obtain ⟨t, ht, -, rfl, -⟩ := date_eq_some_iff.1 h
  obtain ⟨first, year, hyear⟩ : ∃ first year, t.year.text = first :: year :=
    List.exists_cons_of_ne_nil (by simp [YearText.text, ht.year.ne_nil])
  rw [DateText.text, hyear, List.cons_append, List.cons_append]
  exact readInteger_of_dash (by simp)

theorem eq_of_readLocal {letter letter' withSeconds withSeconds' : Bool} {n' : Int}
    (h : readLocal letter withSeconds cs = some n)
    (h' : readLocal letter' withSeconds' cs = some n') :
    letter = letter' ∧ withSeconds = withSeconds' := by
  obtain ⟨d, c, hc, rfl, hdate⟩ := date_of_readLocal h
  obtain ⟨d', c', hc', rfl, hdate'⟩ := date_of_readLocal h'
  have htext := (Prod.mk.inj (Option.some.inj (hdate.symm.trans hdate'))).2
  obtain rfl := hc.letter_iff hc' htext
  exact ⟨rfl, (ClockText.eq_of_text hc hc' endsClock_nil endsClock_nil
    (congrArg (· ++ []) (List.append_cancel_left htext))).1⟩

theorem readLocal_of_readDate (h : readDate cs = some n) (letter withSeconds : Bool) :
    readLocal letter withSeconds cs = none := by
  by_contra hread
  obtain ⟨n', hn'⟩ := Option.ne_none_iff_exists'.1 hread
  obtain ⟨d, hdate⟩ := date_of_readDate h
  obtain ⟨d', c, hc, -, hdate'⟩ := date_of_readLocal hn'
  have htext := (Prod.mk.inj (Option.some.inj (hdate.symm.trans hdate'))).2
  exact hc.ne_nil (List.append_eq_nil_iff.1 htext.symm).2

theorem readWithOffset_of_readDate (h : readDate cs = some n) : readWithOffset cs = none := by
  by_contra hread
  obtain ⟨n', hn'⟩ := Option.ne_none_iff_exists'.1 hread
  obtain ⟨d, hdate⟩ := date_of_readDate h
  obtain ⟨d', separator, c, zone, -, -, -, hdate'⟩ := date_of_readWithOffset hn'
  cases (Prod.mk.inj (Option.some.inj (hdate.symm.trans hdate'))).2

/-- Where an offset follows the time of day, the text is not that of a time in UTC. -/
theorem readLocal_of_zone {d : Date} {separator : Char} {c : ClockText} {zone : Zone}
    (hseparator : separator = 'T' ∨ separator = 't' ∨ separator = ' ') (hc : c.IsProper)
    (hzone : zone.IsProper) (hdate : date cs = some (d, separator :: (c.text ++ zone.text)))
    (letter withSeconds : Bool) : readLocal letter withSeconds cs = none := by
  by_contra hread
  obtain ⟨n, hn⟩ := Option.ne_none_iff_exists'.1 hread
  obtain ⟨d', c', hc', -, hdate'⟩ := date_of_readLocal hn
  have htext := (Prod.mk.inj (Option.some.inj (hdate'.symm.trans hdate))).2
  have hend := endsClock_zone hzone
  cases letter with
  | true =>
    have hclock : c.text ++ zone.text = c'.text ++ [] := by
      rw [List.append_nil]
      exact (List.cons.inj htext).2.symm
    exact zone.text_ne_nil (ClockText.eq_of_text hc hc' hend endsClock_nil hclock).2.2
  | false =>
    obtain rfl : separator = ' ' := by
      have hhead := hc'.head htext
      obtain rfl | rfl | rfl := hseparator
      · revert hhead; decide
      · revert hhead; decide
      · rfl
    -- the blank is then one before the hour
    have hspaced : (ClockText.mk ⟨' ' :: c.hour.blanks, c.hour.digits⟩ c.minute
        c.second).IsProper :=
      ⟨⟨List.forall_mem_cons.2 ⟨rfl, hc.hour.blank⟩, hc.hour.digits, hc.hour.width,
        hc.hour.bounds⟩, hc.minute, hc.second⟩
    have hclock : ' ' :: (c.text ++ zone.text) = c'.text ++ [] := by
      rw [List.append_nil]
      exact htext.symm
    exact zone.text_ne_nil (ClockText.eq_of_text hspaced hc' hend endsClock_nil hclock).2.2

theorem readWithOffset_of_readLocal {letter withSeconds : Bool}
    (h : readLocal letter withSeconds cs = some n) : readWithOffset cs = none := by
  rw [Option.eq_none_iff_forall_ne_some]
  intro n' hn'
  obtain ⟨d, separator, c, zone, hseparator, hc, hzone, hdate⟩ := date_of_readWithOffset hn'
  rw [readLocal_of_zone hseparator hc hzone hdate] at h
  cases h

/-! ## Times -/

/-- The ways to read a time other than in seconds, the first that succeeds. -/
def readDated (cs : List Char) : Option Int :=
  (readWithOffset cs).or <| (readLocal true true cs).or <| (readLocal false true cs).or <|
    (readLocal true false cs).or <| (readLocal false false cs).or (readDate cs)

theorem readDated_of_readLocal {letter withSeconds : Bool}
    (h : readLocal letter withSeconds cs = some n) : readDated cs = some n := by
  have hother (letter' withSeconds' : Bool) (hne : (letter', withSeconds') ≠ (letter, withSeconds)) :
      readLocal letter' withSeconds' cs = none := by
    by_contra hread
    obtain ⟨n', hn'⟩ := Option.ne_none_iff_exists'.1 hread
    obtain ⟨rfl, rfl⟩ := eq_of_readLocal hn' h
    exact hne rfl
  rw [readDated, readWithOffset_of_readLocal h, Option.none_or]
  cases letter <;> cases withSeconds <;> simp [h, hother]

theorem readDated_of_readDate (h : readDate cs = some n) : readDated cs = some n := by
  simp [readDated, readWithOffset_of_readDate h, readLocal_of_readDate h, h]

theorem exists_of_readDated (h : readDated cs = some n) :
    ∃ m : Moment, m.IsProper ∧ cs = m.text ∧ n = m.wholeSeconds := by
  have hlocal {letter withSeconds : Bool} (h : readLocal letter withSeconds cs = some n) :
      ∃ m : Moment, m.IsProper ∧ cs = m.text ∧ n = m.wholeSeconds := by
    obtain ⟨d, c, -, hm⟩ := readLocal_eq_some_iff.1 h
    exact ⟨_, hm⟩
  simp only [readDated, Option.or_eq_some_iff] at h
  obtain h | ⟨-, h | ⟨-, h | ⟨-, h | ⟨-, h | ⟨-, h⟩⟩⟩⟩⟩ := h
  · obtain ⟨d, separator, c, zone, hm⟩ := readWithOffset_eq_some_iff.1 h
    exact ⟨_, hm⟩
  · exact hlocal h
  · exact hlocal h
  · exact hlocal h
  · exact hlocal h
  · obtain ⟨d, hd, hm⟩ := readDate_eq_some_iff.1 h
    exact ⟨.date d, .date hd, hm⟩

theorem read_eq (text : String) :
    read text = match readInteger (trim text.toList) with
      | some n => inRange n
      | none => (readDated (trim text.toList)).bind inRange := rfl

theorem read_of_moment {text : String} {m : Moment} (hm : m.IsProper)
    (htext : trim text.toList = m.text) : read text = inRange m.wholeSeconds := by
  rw [read_eq, htext]
  have hdated (hinteger : readInteger m.text = none) (h : readDated m.text = some m.wholeSeconds) :
      (match readInteger m.text with
        | some n => inRange n
        | none => (readDated m.text).bind inRange) = inRange m.wholeSeconds := by
    rw [hinteger, h, Option.bind_some]
  cases hm with
  | seconds negative hds hne => rw [Moment.text, readInteger_signed negative hds hne]
  | date hd =>
    have hread := readDate_eq_some_iff.2 ⟨_, hd, rfl, rfl⟩
    obtain ⟨d, hdate⟩ := date_of_readDate hread
    exact hdated (readInteger_of_date hdate) (readDated_of_readDate hread)
  | inUtc hd hc hgap =>
    have hread := readLocal_eq_some_iff.2 ⟨_, _, rfl, .inUtc hd hc hgap, rfl, rfl⟩
    obtain ⟨d, c, -, -, hdate⟩ := date_of_readLocal hread
    exact hdated (readInteger_of_date hdate) (readDated_of_readLocal hread)
  | withOffset hd hd' hseparator hc hc' hzone =>
    have hread := readWithOffset_eq_some_iff.2
      ⟨_, _, _, _, .withOffset hd hd' hseparator hc hc' hzone, rfl, rfl⟩
    obtain ⟨d, _, c, zone, -, -, -, hdate⟩ := date_of_readWithOffset hread
    refine hdated (readInteger_of_date hdate) ?_
    rw [readDated, hread, Option.some_or]

/-- A text is a time if and only if it is, without the blanks around it, that of a moment whose
seconds are in the range of timestamps, and these seconds are the time. -/
theorem read_eq_some_iff {text : String} {t : Timestamp} :
    read text = some t ↔ ∃ m : Moment, m.IsProper ∧ trim text.toList = m.text ∧
      m.wholeSeconds = t.toInt := by
  constructor
  · intro h
    rw [read_eq] at h
    split at h
    · next n hn =>
      obtain ⟨negative, ds, hds, hne, htext, rfl⟩ := readInteger_eq_some_iff.1 hn
      exact ⟨_, .seconds negative hds hne, htext, inRange_eq_some_iff.1 h⟩
    · obtain ⟨n, hn, ht⟩ := Option.bind_eq_some_iff.1 h
      obtain ⟨m, hm, htext, rfl⟩ := exists_of_readDated hn
      exact ⟨m, hm, htext, inRange_eq_some_iff.1 ht⟩
  · intro h
    obtain ⟨m, hm, htext, ht⟩ := h
    rw [read_of_moment hm htext, inRange_eq_some_iff, ht]

end

/-! ## Instants -/

def Moment.kind : Moment → Nat
  | seconds _ _ => 0
  | withOffset _ _ _ _ => 1
  | date _ => 2
  | inUtc _ _ _ => 3

def kindOf (cs : List Char) : Nat :=
  if (readInteger cs).isSome then 0
  else if (readWithOffset cs).isSome then 1
  else if (readDate cs).isSome then 2
  else 3

section

variable {m m' : Moment}

theorem kindOf_text (hm : m.IsProper) : kindOf m.text = m.kind := by
  cases hm with
  | seconds negative hds hne =>
    simp [kindOf, Moment.kind, Moment.text, readInteger_signed negative hds hne]
  | withOffset hd hd' hseparator hc hc' hzone =>
    have hread := readWithOffset_eq_some_iff.2
      ⟨_, _, _, _, .withOffset hd hd' hseparator hc hc' hzone, rfl, rfl⟩
    obtain ⟨d, _, c, zone, -, -, -, hdate⟩ := date_of_readWithOffset hread
    simp [kindOf, Moment.kind, readInteger_of_date hdate, hread]
  | date hd =>
    have hread := readDate_eq_some_iff.2 ⟨_, hd, rfl, rfl⟩
    obtain ⟨d, hdate⟩ := date_of_readDate hread
    simp [kindOf, Moment.kind, Moment.text, readInteger_of_date hdate,
      readWithOffset_of_readDate hread, hread]
  | @inUtc d letter c hd hc hgap =>
    have hread := readLocal_eq_some_iff.2 ⟨_, _, rfl, .inUtc hd hc hgap, rfl, rfl⟩
    obtain ⟨_, _, -, -, hdate⟩ := date_of_readLocal hread
    have hnone : readDate (Moment.inUtc d letter c).text = none := by
      by_contra hsome
      obtain ⟨n, hn⟩ := Option.ne_none_iff_exists'.1 hsome
      rw [readLocal_of_readDate hn] at hread
      cases hread
    simp [kindOf, Moment.kind, readInteger_of_date hdate, readWithOffset_of_readLocal hread, hnone]

theorem instant_seconds (negative : Bool) (ds : List Char) :
    (Moment.seconds negative ds).instant = ((Moment.seconds negative ds).wholeSeconds : ℚ) := by
  cases negative <;> simp [Moment.instant, Moment.wholeSeconds]

theorem instant_eq_of_text (hm : m.IsProper) (hm' : m'.IsProper) (htext : m.text = m'.text) :
    m.instant = m'.instant := by
  have hkind : m.kind = m'.kind := by rw [← kindOf_text hm, htext, kindOf_text hm']
  cases hm with
  | seconds negative hds hne =>
    cases hm' with
    | seconds negative' hds' hne' =>
      have hread := readInteger_signed negative hds hne
      rw [← Moment.text, htext, Moment.text, readInteger_signed negative' hds' hne'] at hread
      rw [instant_seconds, instant_seconds, Option.some.inj hread]
    | _ => cases hkind
  | date hd =>
    cases hm' with
    | date hd' =>
      obtain ⟨hdate, -⟩ := DateText.eq_of_text hd hd' (.inr stopsDigits_nil) (.inr stopsDigits_nil)
        (congrArg (· ++ []) htext)
      rw [Moment.instant, Moment.instant, hdate]
    | _ => cases hkind
  | inUtc hd hc hgap =>
    cases hm' with
    | inUtc hd' hc' hgap' =>
      obtain ⟨hdate, htext⟩ := DateText.eq_of_text hd hd' hgap hgap' htext
      obtain rfl := hc.letter_iff hc' htext
      obtain ⟨-, hclock, -⟩ := ClockText.eq_of_text hc hc' endsClock_nil endsClock_nil
        (congrArg (· ++ []) (List.append_cancel_left htext))
      rw [Moment.instant, Moment.instant, hdate, hclock]
    | _ => cases hkind
  | withOffset hd hfull hseparator hc hc' hzone =>
    cases hm' with
    | withOffset hd' hfull' hseparator' hc' _ hzone' =>
      obtain ⟨hdate, htext⟩ := DateText.eq_of_text hd hd' (.inl hfull.day.width)
        (.inl hfull'.day.width) htext
      obtain ⟨-, hclock, hrest⟩ := ClockText.eq_of_text hc hc' (endsClock_zone hzone)
        (endsClock_zone hzone') (List.cons.inj htext).2
      rw [Moment.instant, Moment.instant, hdate, hclock,
        Zone.seconds_eq_of_text hzone hzone' hrest]
    | _ => cases hkind

end

/-- A text denotes an instant, counted in seconds since 1970. -/
def Denotes (text : String) (x : ℚ) : Prop :=
  ∃ m : Moment, m.IsProper ∧ m.HasInstant ∧ trim text.toList = m.text ∧ m.instant = x

theorem Denotes.unique {text : String} {x y : ℚ} (hx : Denotes text x) (hy : Denotes text y) :
    x = y := by
  obtain ⟨m, hm, -, htext, rfl⟩ := hx
  obtain ⟨m', hm', -, htext', rfl⟩ := hy
  exact instant_eq_of_text hm hm' (htext.symm.trans htext')

theorem toInt_eq_floor {text : String} {x : ℚ} {t : Timestamp} (hx : Denotes text x)
    (ht : read text = some t) : t.toInt = ⌊x⌋ := by
  obtain ⟨m, hm, hinstant, htext, rfl⟩ := hx
  rw [read_of_moment hm htext, inRange_eq_some_iff] at ht
  rw [← ht, m.wholeSeconds_eq_floor hm hinstant]

theorem denotes_of_read {text : String} {t : Timestamp} (ht : read text = some t) :
    (∃ x, (∀ y, Denotes text y ↔ y = x) ∧ t.toInt = ⌊x⌋) ∨
      ∃ m : Moment, m.IsProper ∧ trim text.toList = m.text ∧ ¬ m.HasInstant := by
  obtain ⟨m, hm, htext, -⟩ := read_eq_some_iff.1 ht
  by_cases hinstant : m.HasInstant
  · have hx : Denotes text m.instant := ⟨m, hm, hinstant, htext, rfl⟩
    refine .inl ⟨m.instant, fun y => ⟨fun hy => hy.unique hx, ?_⟩, toInt_eq_floor hx ht⟩
    rintro rfl
    exact hx
  · exact .inr ⟨m, hm, htext, hinstant⟩

end Timestamp

end ListenQuery

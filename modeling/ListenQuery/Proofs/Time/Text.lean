import ListenQuery.Proofs.Number.Digits
import ListenQuery.Proofs.Time.Calendar
import ListenQuery.Time.Timestamp

/-!
# Times told apart by their texts

The text of a time names its date and its second of the day. After the year, which may have any
width, the text has the same width for all times, and so no two times have the same text. The texts
of times without a date have no `T`.
-/

namespace ListenQuery

open Number

namespace Timestamp

/-! ## Numbers of a fixed width -/

theorem padded_eq (width n : Nat) :
    padded width n = zeros (width - (natText n).length) ++ natText n := rfl

@[simp] theorem spelled_padded (width n : Nat) : spelled (padded width n) = n := by
  rw [padded_eq, spelled_zeros_append, spelled_natText]

theorem isDigit_of_mem_padded {width n : Nat} {c : Char} (h : c ∈ padded width n) :
    isDigit c = true := by
  rw [padded_eq, List.mem_append] at h
  exact h.elim isDigit_of_mem_zeros isDigit_of_mem_natText

theorem length_padded {width n : Nat} (hwidth : 0 < width) (hn : n < 10 ^ width) :
    (padded width n).length = width := by
  have hlength : (natText n).length ≤ width := (digitCount_le_iff hwidth).2 hn
  rw [padded_eq, List.length_append, zeros, List.length_replicate]
  omega

theorem padded_append_inj {m n : Nat} (hm : m < 100) (hn : n < 100) {rest rest' : List Char}
    (h : padded 2 m ++ rest = padded 2 n ++ rest') : m = n ∧ rest = rest' := by
  have hlength : (padded 2 m).length = (padded 2 n).length := by
    rw [length_padded (by decide) hm, length_padded (by decide) hn]
  obtain ⟨hpadded, hrest⟩ := List.append_inj h hlength
  have hspelled := congrArg spelled hpadded
  simp only [spelled_padded] at hspelled
  exact ⟨hspelled, hrest⟩

/-! ## Years -/

theorem filter_isDigit_yearText (year : Int) :
    (yearText year).filter isDigit = padded 4 year.natAbs := by
  have hminus : isDigit '-' = false := rfl
  have hplus : isDigit '+' = false := rfl
  have hdigits (n : Nat) : (padded 4 n).filter isDigit = padded 4 n :=
    List.filter_eq_self.2 fun _ => isDigit_of_mem_padded
  unfold yearText
  split_ifs with hplain hneg
  · simp only [Bool.and_eq_true, decide_eq_true_eq] at hplain
    rw [hdigits, ← Int.natAbs_of_nonneg hplain.1, Int.toNat_natCast, Int.natAbs_natCast]
  · rw [List.filter_cons_of_neg (by simp [hminus]), hdigits]
  · rw [List.filter_cons_of_neg (by simp [hplus]), hdigits]

theorem minus_mem_yearText_iff (year : Int) : '-' ∈ yearText year ↔ year < 0 := by
  have hdigits (n : Nat) : '-' ∉ padded 4 n :=
    fun h => absurd (isDigit_of_mem_padded h) (by decide)
  unfold yearText
  split_ifs with hplain hneg
  · simp only [Bool.and_eq_true, decide_eq_true_eq] at hplain
    simp [hdigits, hplain.1]
  · simp [hneg]
  · simp [hdigits, hneg]

theorem yearText_injective {year year' : Int} (h : yearText year = yearText year') :
    year = year' := by
  have hdigits : year.natAbs = year'.natAbs := by
    have hspelled := congrArg (spelled <| List.filter isDigit ·) h
    simpa only [filter_isDigit_yearText, spelled_padded] using hspelled
  have hsign : year < 0 ↔ year' < 0 := by
    rw [← minus_mem_yearText_iff, h, minus_mem_yearText_iff]
  omega

/-! ## Dates with a time of day -/

/-- What stands after the year in the text of a date and a second of the day. -/
def afterYear (d : Date) (second : Nat) : List Char :=
  '-' :: (padded 2 d.month ++ '-' :: (padded 2 d.day ++ 'T' :: (padded 2 (second / 3600) ++
    ':' :: (padded 2 (second / 60 % 60) ++ ':' :: (padded 2 (second % 60) ++ "+00:00".toList)))))

theorem day_lt_of_isValid {d : Date} (h : d.isValid = true) : d.month < 100 ∧ d.day < 100 := by
  simp only [Date.isValid, Bool.and_eq_true, decide_eq_true_eq] at h
  have hlength : ∀ leap : Bool, ∀ month ≤ 12, Date.monthLength leap month ≤ 31 := by decide
  have hday := hlength (Date.isLeap d.year) d.month h.1.1.2
  omega

theorem length_afterYear {d : Date} (hd : d.isValid = true) {second : Nat}
    (hsecond : second < 86400) : (afterYear d second).length = 21 := by
  obtain ⟨hmonth, hday⟩ := day_lt_of_isValid hd
  have hhour : second / 3600 < 100 := by omega
  have hminute : second / 60 % 60 < 100 := by omega
  have htwo {n : Nat} (hn : n < 100) : (padded 2 n).length = 2 := length_padded (by decide) hn
  simp [afterYear, htwo hmonth, htwo hday, htwo hhour, htwo hminute,
    htwo (show second % 60 < 100 by omega)]

theorem afterYear_inj {d d' : Date} (hd : d.isValid = true) (hd' : d'.isValid = true)
    {second second' : Nat} (hsecond : second < 86400) (hsecond' : second' < 86400)
    (h : afterYear d second = afterYear d' second') :
    d.month = d'.month ∧ d.day = d'.day ∧ second = second' := by
  obtain ⟨hmonth, hday⟩ := day_lt_of_isValid hd
  obtain ⟨hmonth', hday'⟩ := day_lt_of_isValid hd'
  obtain ⟨hmonths, h⟩ := padded_append_inj hmonth hmonth' (List.cons.inj h).2
  obtain ⟨hdays, h⟩ := padded_append_inj hday hday' (List.cons.inj h).2
  obtain ⟨hhours, h⟩ := padded_append_inj (by omega) (by omega) (List.cons.inj h).2
  obtain ⟨hminutes, h⟩ := padded_append_inj (by omega) (by omega) (List.cons.inj h).2
  obtain ⟨hseconds, -⟩ := padded_append_inj (by omega) (by omega) (List.cons.inj h).2
  exact ⟨hmonths, hdays, by omega⟩

/-! ## Times -/

def dateOf (t : Timestamp) : Date := Date.ofDayNumber (t.toInt / 86400)

def secondOf (t : Timestamp) : Nat := (t.toInt % 86400).toNat

def HasDate (t : Timestamp) : Prop :=
  Date.firstYear ≤ (dateOf t).year ∧ (dateOf t).year ≤ Date.lastYear

theorem secondOf_lt (t : Timestamp) : secondOf t < 86400 := by
  rw [secondOf]
  omega

theorem toInt_eq (t : Timestamp) : t.toInt = seconds (dateOf t) (secondOf t) := by
  rw [seconds, dateOf, secondOf, (Date.ofDayNumber_spec _).2]
  omega

theorem toList_text_of_hasDate {t : Timestamp} (h : t.HasDate) :
    t.text.toList = yearText (dateOf t).year ++ afterYear (dateOf t) (secondOf t) := by
  unfold text
  dsimp only
  rw [if_pos (by simpa [HasDate, dateOf] using h)]
  simp [afterYear, dateOf, secondOf]

theorem toList_text_of_not_hasDate {t : Timestamp} (h : ¬ t.HasDate) :
    t.text.toList = intText t.toInt := by
  unfold text
  dsimp only
  rw [if_neg (by simpa [HasDate, dateOf] using h), String.toList_ofList]

theorem isValid_dateOf (t : Timestamp) : (dateOf t).isValid = true :=
  (Date.ofDayNumber_spec (t.toInt / 86400)).1

theorem letter_mem_text_iff (t : Timestamp) : 'T' ∈ t.text.toList ↔ t.HasDate := by
  by_cases h : t.HasDate
  · simp [toList_text_of_hasDate h, h, afterYear]
  · have hletter : 'T' ∉ intText t.toInt := by
      intro hmem
      rcases isDigit_of_mem_intText hmem with hminus | hdigit
      · exact absurd hminus (by decide)
      · exact absurd hdigit (by decide)
    simp only [toList_text_of_not_hasDate h, hletter, h]

theorem text_injective : Function.Injective text := by
  intro t t' h
  have hlist : t.text.toList = t'.text.toList := congrArg String.toList h
  have hdate : t.HasDate ↔ t'.HasDate := by
    rw [← letter_mem_text_iff, hlist, letter_mem_text_iff]
  rw [← Int64.toInt_inj]
  by_cases ht : t.HasDate
  · have hvalid := isValid_dateOf t
    have hvalid' := isValid_dateOf t'
    rw [toList_text_of_hasDate ht, toList_text_of_hasDate (hdate.1 ht)] at hlist
    have hlength : (afterYear (dateOf t) (secondOf t)).length =
        (afterYear (dateOf t') (secondOf t')).length := by
      rw [length_afterYear hvalid (secondOf_lt t), length_afterYear hvalid' (secondOf_lt t')]
    obtain ⟨hyear, hafter⟩ := List.append_inj' hlist hlength
    obtain ⟨hmonth, hday, hsecond⟩ :=
      afterYear_inj hvalid hvalid' (secondOf_lt t) (secondOf_lt t') hafter
    have hdates : dateOf t = dateOf t' := by
      rw [Date.mk.injEq]
      exact ⟨yearText_injective hyear, hmonth, hday⟩
    rw [toInt_eq, hdates, hsecond, ← toInt_eq]
  · rw [toList_text_of_not_hasDate ht, toList_text_of_not_hasDate (mt hdate.2 ht)] at hlist
    exact intText_injective hlist

end Timestamp

end ListenQuery

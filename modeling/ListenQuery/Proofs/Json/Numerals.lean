import ListenQuery.Proofs.Json.Cursor

/-!
# Numbers read back

The text of a number is read as that number: an integer as the same integer, and a double as the
same double wherever the doubles of texts are the nearest ones.
-/

namespace ListenQuery

open Number

/-- Every number in data is read as the double nearest to it. -/
def Number.RealReading.IsNearest [RealReading] : Prop :=
  ∀ negative whole fraction exponent, AreDigits whole → AreDigits fraction →
    RealReading.toDouble negative whole fraction exponent =
      Decimal.toDouble ⟨negative, spelled (whole ++ fraction), exponent - fraction.length⟩

namespace Cursor

def EndsNumeral (rest : List Char) : Prop :=
  ∀ c ∈ rest.head?, isDigit c = false ∧ c ≠ '.' ∧ c ≠ 'e' ∧ c ≠ 'E'

theorem EndsValue.endsNumeral {rest : List Char} (h : EndsValue rest) : EndsNumeral rest := by
  intro c hc
  rcases h c hc with hspace | rfl | rfl | rfl
  · simp only [isSpace, Bool.or_eq_true, decide_eq_true_eq] at hspace
    rcases hspace with ((rfl | rfl) | rfl) | rfl <;> decide
  all_goals decide

theorem EndsNumeral.not_isDigit {rest : List Char} (h : EndsNumeral rest) :
    ∀ c ∈ rest.head?, isDigit c = false := fun c hc => (h c hc).1

theorem le_ofDigitChars (ds : List Char) (n : Nat) : n ≤ Nat.ofDigitChars 10 ds n := by
  rw [Nat.ofDigitChars_eq_ofDigitChars_zero]
  exact Nat.le_add_right_of_le (Nat.le_mul_of_pos_left n (Nat.pow_pos (by decide)))

theorem exponentWithin_append (positive zero : Bool) {ds rest : List Char} (hds : AreDigits ds)
    (hrest : ∀ c ∈ rest.head?, isDigit c = false) (n : Nat) (p : Position)
    (hlimit : Nat.ofDigitChars 10 ds n ≤ exponentLimit) :
    ∃ p', exponentWithin positive zero (ds ++ rest) n p =
      .ok (Nat.ofDigitChars 10 ds n, ⟨rest, p'⟩) := by
  induction ds generalizing n p with
  | nil =>
    refine ⟨p, ?_⟩
    cases rest with
    | nil => rfl
    | cons c rest => simp [exponentWithin, hrest c rfl]
  | cons d ds ih =>
    have hd : isDigit d = true := hds d (by simp)
    rw [Nat.ofDigitChars_cons] at hlimit ⊢
    have hn : ¬ exponentLimit < 10 * n + digitValue d :=
      Nat.not_lt.2 ((le_ofDigitChars ds _).trans hlimit)
    obtain ⟨p', hmore⟩ := ih (fun c hc => hds c (by simp [hc])) _ (bump d p) hlimit
    refine ⟨p', ?_⟩
    simp only [List.cons_append, exponentWithin, hd, hn, if_true, decide_false, Bool.false_and]
    exact hmore

theorem exponent_text (zero : Bool) {e : Int} (he : e.natAbs ≤ exponentLimit) {rest : List Char}
    (hrest : ∀ c ∈ rest.head?, isDigit c = false) (p : Position) :
    ∃ p', exponent zero ⟨(if e < 0 then '-' else '+') :: (natText e.natAbs ++ rest), p⟩ =
      .ok (e, ⟨rest, p'⟩) := by
  obtain ⟨first, more, hfirst⟩ := List.exists_cons_of_ne_nil (natText_ne_nil e.natAbs)
  have hdigits := areDigits_natText e.natAbs
  have hspelled : Nat.ofDigitChars 10 (natText e.natAbs) 0 = e.natAbs := spelled_natText e.natAbs
  have hhead : isDigit first = true := hdigits first (by simp [hfirst])
  by_cases hneg : e < 0
  · obtain ⟨p', hread⟩ := exponentWithin_append false zero hdigits hrest 0 (bump '-' p)
      (by rwa [hspelled])
    refine ⟨p', ?_⟩
    rw [hspelled, hfirst, List.cons_append] at hread
    simp [exponent, hneg, hfirst, hhead, hread, abs_of_neg hneg]
  · obtain ⟨p', hread⟩ := exponentWithin_append true zero hdigits hrest 0 (bump '+' p)
      (by rwa [hspelled])
    refine ⟨p', ?_⟩
    rw [hspelled, hfirst, List.cons_append] at hread
    simp [exponent, hneg, hfirst, hhead, hread]
    omega

theorem realNumeral_finite {x : Double} (hx : x.isFinite = true) (cur : Cursor) :
    realNumeral x cur = .ok (.real x hx, cur) := dif_pos hx

theorem exponentText_head (e : Int) (rest : List Char) :
    ∀ c ∈ (exponentText e ++ rest).head?, isDigit c = false := by
  rintro c ⟨⟩
  decide

theorem point_head (rest : List Char) : ∀ c ∈ ('.' :: rest).head?, isDigit c = false := by
  rintro c ⟨⟩
  decide

section

variable [RealReading] {whole fraction rest : List Char}

theorem numeral_whole (hwhole : IsWhole whole) (negative : Bool) {tail : List Char}
    (htail : ∀ c ∈ tail.head?, isDigit c = false) (p : Position) :
    ∃ p', numeral ⟨signed negative (whole ++ tail), p⟩ = numeralTail negative whole ⟨tail, p'⟩ := by
  obtain ⟨first, more, rfl⟩ := List.exists_cons_of_ne_nil hwhole.ne_nil
  have hfirst : isDigit first = true := hwhole.digits _ (by simp)
  have hsign : first ≠ '-' := by
    rintro rfl
    simp [isDigit] at hfirst
  by_cases hzero : first = '0'
  · subst hzero
    obtain rfl : more = [] := List.tail_eq_of_cons_eq (hwhole.zero rfl)
    refine ⟨bump '0' (if negative then bump '-' p else p), ?_⟩
    cases tail with
    | nil => cases negative <;> simp [numeral, signed]
    | cons c tail => cases negative <;> simp [numeral, signed, htail c rfl]
  · obtain ⟨p', hdigits⟩ := digits_append hwhole.digits htail (if negative then bump '-' p else p)
    refine ⟨p', ?_⟩
    cases negative <;> simp_all [numeral, signed]

theorem numeralEnd_plain {negative : Bool} (hrest : EndsNumeral rest) (p : Position)
    (plain : Cursor → Except Fault (Numeral × Cursor)) :
    numeralEnd negative whole fraction ⟨rest, p⟩ plain = plain ⟨rest, p⟩ := by
  cases rest with
  | nil => rfl
  | cons c rest =>
    obtain ⟨-, -, he, hE⟩ := hrest c rfl
    simp [numeralEnd, he, hE]

theorem numeralEnd_exponentText {e : Int} (he : e.natAbs ≤ exponentLimit)
    (hrest : EndsNumeral rest) {negative : Bool} {x : Double} (hx : x.isFinite = true)
    (hvalue : RealReading.toDouble negative whole fraction e = x) (p : Position)
    (plain : Cursor → Except Fault (Numeral × Cursor)) :
    ∃ p', numeralEnd negative whole fraction ⟨exponentText e ++ rest, p⟩ plain =
      .ok (.real x hx, ⟨rest, p'⟩) := by
  obtain ⟨p', hread⟩ := exponent_text (spelled (whole ++ fraction) = 0) he hrest.not_isDigit
    (bump 'e' p)
  refine ⟨p', ?_⟩
  subst hvalue
  simp [numeralEnd, exponentText, hread, realNumeral_finite hx]

theorem reads_spells (hnearest : RealReading.IsNearest) {text : List Char} {e : Int}
    (hspells : Spells text whole fraction e) (hwhole : IsWhole whole)
    (hfraction : AreDigits fraction)
    {negative : Bool} {x : Double} (hx : x.isFinite = true)
    (hvalue : Decimal.toDouble ⟨negative, spelled (whole ++ fraction), e - fraction.length⟩ = x) :
    Reads numeral (signed negative text) (.real x hx) := by
  intro rest p hends
  have hrest := hends.endsNumeral
  have hdouble := (hnearest negative whole fraction e hwhole.digits hfraction).trans hvalue
  have htext : ∀ tail, signed negative (whole ++ tail) ++ rest =
      signed negative (whole ++ (tail ++ rest)) := by
    intro tail
    cases negative <;> simp [signed]
  cases hspells with
  | fixed _ _ hne =>
    obtain ⟨p₁, hread⟩ := numeral_whole hwhole negative (point_head (fraction ++ rest)) p
    obtain ⟨p₂, hdigits⟩ := digits_append hfraction hrest.not_isDigit (bump '.' p₁)
    refine ⟨p₂, ?_⟩
    rw [htext, List.cons_append, hread]
    simp [numeralTail, hdigits, hne, numeralEnd_plain hrest, hdouble, realNumeral_finite hx]
  | power _ _ hlimit =>
    obtain ⟨p₁, hread⟩ := numeral_whole hwhole negative (exponentText_head e rest) p
    obtain ⟨p₂, hend⟩ := numeralEnd_exponentText (hlimit.trans (by decide)) hrest hx hdouble p₁
      (integerNumeral negative whole)
    exact ⟨p₂, by rw [htext, hread]; exact hend⟩
  | scientific _ _ _ hne hlimit =>
    obtain ⟨p₁, hread⟩ := numeral_whole hwhole negative
      (point_head (fraction ++ (exponentText e ++ rest))) p
    obtain ⟨p₂, hdigits⟩ := digits_append hfraction (exponentText_head e rest) (bump '.' p₁)
    obtain ⟨p₃, hend⟩ := numeralEnd_exponentText (hlimit.trans (by decide)) hrest hx hdouble p₂
      (realNumeral (RealReading.toDouble negative whole fraction 0))
    refine ⟨p₃, ?_⟩
    rw [htext, List.cons_append, List.append_assoc, hread, ← hend]
    simp [numeralTail, hdigits, hne]

theorem reads_intText {n : Int} (hn : -2 ^ 63 ≤ n ∧ n < 2 ^ 64) :
    Reads numeral (intText n) (.integer n hn) := by
  intro rest p hends
  have hrest := hends.endsNumeral
  obtain ⟨p', hread⟩ :=
    numeral_whole (isWhole_natText n.natAbs) (decide (n < 0)) hrest.not_isDigit p
  refine ⟨p', ?_⟩
  have htext : intText n ++ rest = signed (decide (n < 0)) (natText n.natAbs ++ rest) := by
    by_cases hneg : n < 0 <;> simp [intText, signed, hneg]
  have htail : numeralTail (decide (n < 0)) (natText n.natAbs) ⟨rest, p'⟩ =
      integerNumeral (decide (n < 0)) (natText n.natAbs) ⟨rest, p'⟩ := by
    cases rest with
    | nil => rfl
    | cons c rest =>
      have hpoint : c ≠ '.' := (hrest c rfl).2.1
      simp [numeralTail, hpoint, numeralEnd_plain hrest]
  rw [htext, hread, htail]
  by_cases hneg : n < 0
  · have hsize : n.natAbs ≤ 2 ^ 63 := by omega
    simp only [integerNumeral, hneg, spelled_natText, decide_true]
    rw [dif_neg (by simp), dif_pos ⟨trivial, by omega, hsize⟩]
    simp [abs_of_neg hneg]
  · have hsize : n.natAbs < 2 ^ 64 := by omega
    simp only [integerNumeral, hneg, spelled_natText, decide_false]
    rw [dif_pos ⟨trivial, hsize⟩]
    simp [abs_of_nonneg (Int.not_lt.1 hneg)]

theorem reads_numeral (hnearest : RealReading.IsNearest) (n : Numeral) :
    Reads numeral n.text n := by
  cases n with
  | integer n hn => exact reads_intText hn
  | real x hx =>
    obtain ⟨text, whole, fraction, e, htext, hwhole, hfraction, hspells, hvalue⟩ :=
      exists_spells_dataText hx
    have hreads := reads_spells hnearest hspells hwhole hfraction hx hvalue
    rwa [← htext] at hreads

end

end Cursor

end ListenQuery

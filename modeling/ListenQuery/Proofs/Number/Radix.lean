import ListenQuery.Proofs.Number.Literal
import ListenQuery.Proofs.Number.Significand

/-!
# Integers in other bases

The digits of an integer in base 16, 8 or 2 are gathered one by one, and each step is rounded. Up to
53 bits nothing is lost. Once a significand is full, every further digit is below half a step and
falls away, so the double is decided by the first digits that fill it. This is the nearest double
unless those digits are halfway to it and only the later ones tell that the number is above the
middle.
-/

namespace ListenQuery.Number

open Text

namespace Double

/-! ## Lost ties -/

/-- A number halfway between two doubles that rounding takes to the lower one: an even significand,
and behind it a one and then zeros. -/
def IsLowTie (n : Nat) : Prop :=
  ∃ significand exponent, 2 ^ 52 ≤ significand ∧ significand < 2 ^ 53 ∧ significand % 2 = 0 ∧
    n = (2 * significand + 1) * 2 ^ exponent

/-- The first digits of a number are such a tie, and those behind them are not all zeros. The number
is above the middle, but its digits do not show this until they no longer count. -/
def LosesTie (radix n : Nat) : Prop :=
  ∃ count, IsLowTie (n / radix ^ count) ∧ n % radix ^ count ≠ 0

section

variable {n c s r k d : Nat}

theorem HasSignificand.of_lowTie {exponent rest : Nat} (hlo : 2 ^ 52 ≤ c) (hhi : c < 2 ^ 53)
    (hrest : rest < 2 ^ exponent) (hn : n = (2 * c + 1) * 2 ^ exponent + rest) :
    HasSignificand n c (exponent + 1) (2 ^ exponent + rest) := by
  refine ⟨?_, hlo, hhi, ?_⟩
  · rw [hn, Nat.pow_succ]
    ring
  · rw [Nat.pow_succ]
    omega

theorem HasSignificand.isLowTie_iff (h : HasSignificand n c s r) :
    IsLowTie n ↔ 2 * r = 2 ^ s ∧ c % 2 = 0 := by
  constructor
  · intro htie
    obtain ⟨c', e, hlo, hhi, heven, hn⟩ := htie
    obtain ⟨rfl, rfl, rfl⟩ := h.unique (.of_lowTie hlo hhi (Nat.two_pow_pos e) hn)
    exact ⟨by rw [Nat.pow_succ]; omega, heven⟩
  · intro hhalf
    obtain ⟨hr, heven⟩ := hhalf
    cases s with
    | zero =>
      rw [Nat.pow_zero] at hr
      omega
    | succ s =>
      refine ⟨c, s, h.le_significand, h.significand_lt, heven, ?_⟩
      rw [Nat.pow_succ] at hr
      rw [h.eq, Nat.pow_succ, show r = 2 ^ s by omega]
      ring

theorem IsLowTie.le (h : IsLowTie n) : 2 ^ 53 ≤ n := by
  obtain ⟨c, e, hlo, -, -, rfl⟩ := h
  calc 2 ^ 53 ≤ 2 * c + 1 := by omega
    _ ≤ (2 * c + 1) * 2 ^ e := Nat.le_mul_of_pos_right _ (Nat.two_pow_pos e)

theorem IsLowTie.mul_pow (h : IsLowTie n) (k : Nat) : IsLowTie (n * 2 ^ k) := by
  obtain ⟨c, e, hlo, hhi, heven, rfl⟩ := h
  exact ⟨c, e + k, hlo, hhi, heven, by rw [Nat.pow_add, Nat.mul_assoc]⟩

/-- A tie is lost when the first digit that is not zero comes after it. -/
theorem losesTie_step (hd : d < 2 ^ k) :
    LosesTie (2 ^ k) (2 ^ k * n + d) ↔ LosesTie (2 ^ k) n ∨ IsLowTie n ∧ d ≠ 0 := by
  have hpos := Nat.two_pow_pos k
  have hsucc (count : Nat) : (2 ^ k * n + d) / (2 ^ k) ^ (count + 1) = n / (2 ^ k) ^ count ∧
      (2 ^ k * n + d) % (2 ^ k) ^ (count + 1) = 2 ^ k * (n % (2 ^ k) ^ count) + d := by
    have hdiv : (2 ^ k * n + d) / 2 ^ k = n := by
      rw [Nat.mul_add_div hpos, Nat.div_eq_of_lt hd, Nat.add_zero]
    have hmod : (2 ^ k * n + d) % 2 ^ k = d := by
      rw [Nat.mul_add_mod, Nat.mod_eq_of_lt hd]
    rw [Nat.pow_succ', ← Nat.div_div_eq_div_mul, Nat.mod_mul, hdiv, hmod]
    exact ⟨rfl, Nat.add_comm _ _⟩
  constructor
  · intro h
    obtain ⟨count, htie, hrest⟩ := h
    cases count with
    | zero => simp [Nat.mod_one] at hrest
    | succ count =>
      rw [(hsucc count).1] at htie
      rw [(hsucc count).2] at hrest
      by_cases hzero : n % (2 ^ k) ^ count = 0
      · refine .inr ⟨?_, by simpa [hzero] using hrest⟩
        rw [← Nat.div_add_mod' n ((2 ^ k) ^ count), hzero, Nat.add_zero, ← Nat.pow_mul]
        rw [← Nat.pow_mul] at htie
        exact htie.mul_pow _
      · exact .inl ⟨count, htie, hzero⟩
  · intro h
    obtain ⟨count, htie, hrest⟩ | ⟨htie, hrest⟩ := h
    · refine ⟨count + 1, by rwa [(hsucc count).1], ?_⟩
      have := Nat.mul_pos hpos (Nat.pos_of_ne_zero hrest)
      rw [(hsucc count).2]
      omega
    · refine ⟨1, ?_, ?_⟩
      · rw [(hsucc 0).1, Nat.pow_zero, Nat.div_one]
        exact htie
      · rw [(hsucc 0).2]
        omega

theorem LosesTie.exists_hasSignificand (h : LosesTie (2 ^ k) n) :
    ∃ c s r, HasSignificand n c s r ∧ 2 ^ s < 2 * r ∧ c % 2 = 0 := by
  obtain ⟨count, ⟨c, e, hlo, hhi, heven, hn⟩, hrest⟩ := h
  rw [← Nat.pow_mul] at hn hrest
  have hlt := Nat.mod_lt n (Nat.two_pow_pos (k * count))
  have hsplit : n = (2 * c + 1) * 2 ^ (e + k * count) + n % 2 ^ (k * count) := by
    rw [Nat.pow_add, ← Nat.mul_assoc, ← hn, Nat.div_add_mod']
  have hbelow : n % 2 ^ (k * count) < 2 ^ (e + k * count) :=
    hlt.trans_le (Nat.pow_le_pow_right (by decide) (Nat.le_add_left _ _))
  refine ⟨c, _, _, .of_lowTie hlo hhi hbelow hsplit, ?_, heven⟩
  rw [Nat.pow_succ]
  omega

theorem LosesTie.le (h : LosesTie (2 ^ k) n) : 2 ^ 53 ≤ n := by
  obtain ⟨count, htie, -⟩ := h
  exact htie.le.trans (Nat.div_le_self _ _)

/-! ## Digits gathered one by one -/

theorem exists_placeOf {p : Nat} (hp : 2 ^ 52 ≤ p) :
    ∃ c e, p = placeOf c e ∧ 2 ^ 52 ≤ c ∧ c < 2 ^ 53 :=
  ⟨2 ^ 52 + p % 2 ^ 52, p / 2 ^ 52 - 1, by unfold placeOf; omega, by omega, by omega⟩

theorem place_shiftIn_eq (x : Double) (radix d : Nat) :
    (x.shiftIn radix d).place =
      nearestPlace (gridValue x.place * radix + d * unitsInOne) 1 := by
  rw [shiftIn, ofUnits]

theorem negative_shiftIn (x : Double) (radix d : Nat) : (x.shiftIn radix d).negative = false := by
  rw [shiftIn, ofUnits]

theorem place_shiftIn {x : Double} (hx : placeOf (2 ^ 52) 1075 ≤ x.place) (hd : d < 2 ^ k) :
    (x.shiftIn (2 ^ k) d).place = min (x.place + k * 2 ^ 52) infinityPlace := by
  obtain ⟨c, e, hplace, hlo, hhi⟩ := exists_placeOf (p := x.place) (by unfold placeOf at hx; omega)
  obtain ⟨s, rfl⟩ : ∃ s, e = s + 1 + 1074 := by
    rw [hplace] at hx
    unfold placeOf at hx
    exact ⟨e - 1075, by omega⟩
  have hshifted : placeOf c (s + 1 + 1074 + k) = x.place + k * 2 ^ 52 := by
    rw [hplace]
    unfold placeOf
    omega
  have hstep : 2 * (d * unitsInOne) < 2 ^ (s + 1 + 1074 + k) := by
    have hlt : 2 * d < 2 ^ (s + 1 + k) := by
      rw [show s + 1 + k = s + k + 1 by omega, Nat.pow_succ, Nat.pow_add]
      have := Nat.mul_le_mul_right (2 ^ k) (Nat.two_pow_pos s)
      omega
    rw [show s + 1 + 1074 + k = s + 1 + k + 1074 by omega, two_pow_add_units, ← Nat.mul_assoc]
    exact Nat.mul_lt_mul_of_pos_right hlt unitsInOne_pos
  have hkept : ¬ RoundsUp c (2 ^ (s + 1 + 1074 + k)) (d * unitsInOne) := by
    unfold RoundsUp
    omega
  have hnearest := nearestPlace_significand hlo hhi (e := s + 1 + 1074 + k)
    (r := d * unitsInOne) (by omega)
  rw [if_neg hkept, hshifted] at hnearest
  have hvalue : gridValue x.place = c * 2 ^ (s + 1 + 1074) := by
    rw [hplace, gridValue_placeOf hlo hhi.le]
  rw [place_shiftIn_eq, hvalue, Nat.mul_assoc, ← Nat.pow_add, hnearest, Nat.add_zero]

/-- What the digits of a number come to: the double nearest to it while it has at most 53 bits, and
else its significand, rounded up if the rest is more than a half and no tie was lost. -/
inductive Gathered (radix n : Nat) (x : Double) : Prop
  | exact (hn : n < 2 ^ 53) (hx : x = ofRatio false n 1)
  | rounded {c s r up : Nat} (hn : HasSignificand n c (s + 1) r) (hx : x.negative = false)
    (hle : up ≤ 1) (hup : up = 1 ↔ RoundsUp c (2 ^ (s + 1)) r ∧ ¬ LosesTie radix n)
    (hplace : x.place = min (placeOf c (s + 1 + 1074) + up) infinityPlace)

theorem ext_iff {x y : Double} : x = y ↔ x.negative = y.negative ∧ x.place = y.place := by
  cases x
  cases y
  rw [mk.injEq]

theorem place_ofRatio (n : Nat) :
    (ofRatio false n 1).place = nearestPlace (n * unitsInOne) 1 := by
  rw [ofRatio, ofUnits]

theorem negative_ofRatio (n : Nat) : (ofRatio false n 1).negative = false := by
  rw [ofRatio, ofUnits]

theorem Gathered.nearest {x : Double} (hx : x = ofRatio false n 1) (htie : ¬ LosesTie (2 ^ k) n) :
    Gathered (2 ^ k) n x := by
  rcases Nat.lt_or_ge n (2 ^ 53) with hlt | hge
  · exact .exact hlt hx
  · obtain ⟨c, s, r, hn, hs⟩ := Double.exists_hasSignificand hge
    obtain ⟨s, rfl⟩ : ∃ t, s = t + 1 := ⟨s - 1, by omega⟩
    have hplace := nearestPlace_of_hasSignificand hn
    rw [← place_ofRatio, ← hx] at hplace
    have hsign : x.negative = false := by rw [hx, negative_ofRatio]
    by_cases hup : RoundsUp c (2 ^ (s + 1)) r
    · rw [if_pos hup] at hplace
      exact .rounded hn hsign (Nat.le_refl 1) (iff_of_true rfl ⟨hup, htie⟩) hplace
    · rw [if_neg hup] at hplace
      exact .rounded hn hsign (Nat.zero_le 1) (iff_of_false (by decide) fun h => hup h.1) hplace

theorem HasSignificand.append (h : HasSignificand n c s r) (hd : d < 2 ^ k) :
    HasSignificand (2 ^ k * n + d) c (s + k) (2 ^ k * r + d) where
  eq := by
    rw [h.eq, Nat.pow_add]
    ring
  le_significand := h.le_significand
  significand_lt := h.significand_lt
  rest_lt := by
    have hstep := Nat.mul_le_mul_left (2 ^ k) (Nat.succ_le_of_lt h.rest_lt)
    rw [Nat.mul_succ, Nat.mul_comm _ (2 ^ s)] at hstep
    rw [Nat.pow_add]
    omega

theorem HasSignificand.roundsUp_append (h : HasSignificand n c (s + 1) r) (hd : d < 2 ^ k) :
    (RoundsUp c (2 ^ (s + 1 + k)) (2 ^ k * r + d) ∧ ¬ LosesTie (2 ^ k) (2 ^ k * n + d)) ↔
      RoundsUp c (2 ^ (s + 1)) r ∧ ¬ LosesTie (2 ^ k) n := by
  have hpos := Nat.two_pow_pos k
  have hscale : 2 ^ (s + 1 + k) = 2 * (2 ^ k * 2 ^ s) := by
    rw [Nat.pow_add, Nat.pow_succ]
    ring
  rw [losesTie_step hd, h.isLowTie_iff]
  by_cases hlost : LosesTie (2 ^ k) n
  · simp [hlost]
  unfold RoundsUp
  rw [hscale, Nat.pow_succ, Nat.mul_comm (2 ^ s) 2]
  simp only [hlost, false_or, not_false_eq_true, and_true]
  clear hscale hlost
  generalize 2 ^ s = half
  generalize 2 ^ k = radix at hd hpos ⊢
  obtain hbelow | rfl | habove := Nat.lt_trichotomy r half
  · have hnext := Nat.mul_le_mul_left radix (Nat.succ_le_of_lt hbelow)
    rw [Nat.mul_succ] at hnext
    omega
  · omega
  · have hnext := Nat.mul_le_mul_left radix (Nat.succ_le_of_lt habove)
    rw [Nat.mul_succ] at hnext
    omega

theorem min_add_min (p up moved top : Nat) :
    min (min (p + up) top + moved) top = min (p + moved + up) top := by
  omega

theorem Gathered.shiftIn {x : Double} (h : Gathered (2 ^ k) n x) (hd : d < 2 ^ k) :
    Gathered (2 ^ k) (2 ^ k * n + d) (x.shiftIn (2 ^ k) d) := by
  cases h with
  | exact hn hx =>
    refine .nearest ?_ ?_
    · have hunits : n * unitsInOne * 2 ^ k + d * unitsInOne = (2 ^ k * n + d) * unitsInOne := by
        rw [Nat.add_mul, Nat.mul_comm (2 ^ k) n, Nat.mul_right_comm]
      rw [Double.shiftIn, hx, place_ofRatio, gridValue_nearestPlace_units hn, hunits, ofRatio]
    · rw [losesTie_step hd]
      rintro (h | ⟨h, -⟩)
      · exact absurd h.le (Nat.not_le.2 hn)
      · exact absurd h.le (Nat.not_le.2 hn)
  | @rounded c s r up hn hx hle hup hplace =>
    have hn' : HasSignificand (2 ^ k * n + d) c (s + k + 1) (2 ^ k * r + d) := by
      rw [Nat.add_right_comm]
      exact hn.append hd
    refine .rounded hn' ?_ hle ?_ ?_
    · rw [negative_shiftIn]
    · rw [hup, Nat.add_right_comm s k 1, hn.roundsUp_append hd]
    · have hlo := hn.le_significand
      have hfull : placeOf (2 ^ 52) 1075 ≤ x.place := by
        rw [hplace]
        refine Nat.le_min.2 ⟨?_, by decide⟩
        unfold placeOf
        omega
      have hmoved : placeOf c (s + k + 1 + 1074) = placeOf c (s + 1 + 1074) + k * 2 ^ 52 := by
        unfold placeOf
        omega
      rw [place_shiftIn hfull hd, hplace, hmoved, min_add_min]

/-- Below an even top a step up from an even number does not stop at the top. -/
theorem min_step_of_even {p top : Nat} (hp : p % 2 = 0) (htop : top % 2 = 0) :
    (min (p + 0) top = min (p + 1) top ↔ top ≤ min (p + 1) top) ∧
      (min (p + 0) top ≠ min (p + 1) top → min (p + 0) top + 1 = min (p + 1) top) := by
  omega

/-- A number is the double that its digits come to unless a tie was lost on the way. The digits
then come to the double just below it. -/
theorem Gathered.eq_ofRatio_iff {x : Double} (h : Gathered (2 ^ k) n x) :
    (x = ofRatio false n 1 ↔ ¬ LosesTie (2 ^ k) n ∨ (ofRatio false n 1).isFinite = false) ∧
      (x ≠ ofRatio false n 1 → x.negative = false ∧ x.place + 1 = (ofRatio false n 1).place) := by
  cases h with
  | exact hn hx =>
    have hkept : ¬ LosesTie (2 ^ k) n := fun h => absurd h.le (Nat.not_le.2 hn)
    exact ⟨iff_of_true hx (.inl hkept), fun hne => absurd hx hne⟩
  | @rounded c s r up hn hx hle hup hplace =>
    have heq : x = ofRatio false n 1 ↔ x.place = (ofRatio false n 1).place := by
      rw [ext_iff, hx, negative_ofRatio, eq_self, true_and]
    have hnearest := nearestPlace_of_hasSignificand hn
    rw [← place_ofRatio] at hnearest
    have hfinite : (ofRatio false n 1).isFinite = false ↔
        infinityPlace ≤ (ofRatio false n 1).place := by
      rw [isFinite, decide_eq_false_iff_not, Nat.not_lt]
    rw [heq, hfinite, ne_eq, heq, hx]
    by_cases hlost : LosesTie (2 ^ k) n
    · obtain ⟨c', s', r', hn', habove, heven⟩ := hlost.exists_hasSignificand
      obtain ⟨rfl, rfl, rfl⟩ := hn'.unique hn
      have hplaceEven : placeOf c' (s + 1 + 1074) % 2 = 0 := by
        unfold placeOf
        omega
      obtain rfl : up = 0 := by
        have := mt hup.1 fun h => h.2 hlost
        omega
      rw [if_pos (.inl habove)] at hnearest
      have htopEven : infinityPlace % 2 = 0 := by decide
      simp only [hlost, not_true_eq_false, false_or, true_and]
      rw [hplace, hnearest]
      exact min_step_of_even hplaceEven htopEven
    · have hsame : x.place = (ofRatio false n 1).place := by
        rw [hplace, hnearest]
        congr 2
        split_ifs with h
        · exact hup.2 ⟨h, hlost⟩
        · have := mt hup.1 fun h' => h h'.1
          omega
      exact ⟨iff_of_true hsame (.inl hlost), fun hne => absurd hsame hne⟩

end

/-- The double nearest to a natural number. Halfway between two doubles it is the even one, and it
is infinity from halfway between the largest double and the next power of two. -/
structure IsNearest (n : Nat) (x : Double) : Prop where
  negative : x.negative = false
  roundsTo : x.isFinite = true → RoundsTo x.place (n * unitsInOne) 1
  overflow : x.isFinite = false →
    gridValue (infinityPlace - 1) + gridValue infinityPlace ≤ 2 * (n * unitsInOne)

theorem isNearest_ofRatio (n : Nat) : IsNearest n (ofRatio false n 1) := by
  obtain ⟨hrounds, hlow⟩ := @roundsTo_nearestPlace (n * unitsInOne) 1 Nat.one_pos
  rw [← place_ofRatio, Nat.one_mul] at hlow
  rw [← place_ofRatio] at hrounds
  refine ⟨negative_ofRatio n, fun hfinite => hrounds ?_, fun hfinite => ?_⟩
  · simpa [isFinite] using hfinite
  · have htop : (ofRatio false n 1).place = infinityPlace :=
      Nat.le_antisymm (ofRatio false n 1).place_le (by simpa [isFinite] using hfinite)
    rwa [htop] at hlow

end Double

/-! ## Spellings -/

def spelledIn (radix : Nat) (digits : List Char) : Nat :=
  digits.foldl (fun n c => radix * n + (radixDigit radix c).getD 0) 0

theorem radixDigit_lt {radix d : Nat} {c : Char} (h : radixDigit radix c = some d) :
    d < radix := by
  simp only [radixDigit, Option.ite_none_right_eq_some, Option.some.injEq] at h
  exact h.2 ▸ h.1

theorem gatherDigits_spelledIn {k : Nat} {digits : List Char}
    (hdigits : ∀ c ∈ digits, (radixDigit (2 ^ k) c).isSome = true) {n : Nat} {x : Double}
    (hx : Double.Gathered (2 ^ k) n x) :
    ∃ y, gatherDigits (2 ^ k) x digits = some y ∧
      Double.Gathered (2 ^ k)
        (digits.foldl (fun n c => 2 ^ k * n + (radixDigit (2 ^ k) c).getD 0) n) y := by
  induction digits generalizing n x with
  | nil => exact ⟨x, rfl, hx⟩
  | cons c digits ih =>
    obtain ⟨hc, hdigits⟩ := List.forall_mem_cons.1 hdigits
    obtain ⟨d, hd⟩ := Option.isSome_iff_exists.1 hc
    obtain ⟨y, hy, hgathered⟩ := ih hdigits (hx.shiftIn (radixDigit_lt hd))
    refine ⟨y, ?_, ?_⟩
    · rw [gatherDigits, hd]
      exact hy
    · rw [List.foldl_cons, hd]
      exact hgathered

theorem gathered_zero (k : Nat) : Double.Gathered (2 ^ k) 0 (.zero false) :=
  .exact (Nat.two_pow_pos 53) (by decide +kernel)

/-- A number in base 16, 8 or 2 is the double nearest to it, as it is in base 10, if and only if its
digits lose no tie or it overflows. Where a tie is lost, it is the double before that one. -/
theorem readNumber_radix {mark : Char} {width : Nat} (hmark : (mark, width) ∈ radixMarks)
    {digits : List Char} (hne : digits ≠ [])
    (hdigits : ∀ c ∈ digits, (radixDigit (2 ^ width) c).isSome = true) {text : String}
    (htext : trim text.toList = '0' :: mark :: digits) :
    ∃ x nearest, readNumber text = some x ∧
      readNumber (String.ofList (natText (spelledIn (2 ^ width) digits))) = some nearest ∧
      Double.IsNearest (spelledIn (2 ^ width) digits) nearest ∧
      (x = nearest ↔
        ¬ Double.LosesTie (2 ^ width) (spelledIn (2 ^ width) digits) ∨ nearest.isFinite = false) ∧
      (x ≠ nearest → x.negative = false ∧ x.place + 1 = nearest.place) := by
  obtain ⟨x, hread, hgathered⟩ := gatherDigits_spelledIn hdigits (gathered_zero width)
  have hx : readNumber text = some x := by
    rw [readNumber, htext, readTrimmed_mark hmark, readRadix, List.isEmpty_eq_false_iff.2 hne]
    exact hread
  exact ⟨x, _, hx, readNumber_natText false _, Double.isNearest_ofRatio _, hgathered.eq_ofRatio_iff⟩

theorem readNumber_radix_lostTie :
    ('x', 4) ∈ radixMarks ∧ trim "0x200000000000011".toList = "0x200000000000011".toList ∧
    ∃ x nearest, readNumber "0x200000000000011" = some x ∧
      readNumber "144115188075855889" = some nearest ∧ x.place + 1 = nearest.place := by
  have hmark : ('x', 4) ∈ radixMarks := by decide
  have htext : trim "0x200000000000011".toList = "0x200000000000011".toList := by decide +kernel
  have hne : "200000000000011".toList ≠ [] := by decide
  obtain ⟨x, nearest, hx, hnearest, -, hiff, hbelow⟩ :=
    readNumber_radix hmark hne (List.all_eq_true.1 (by decide +kernel)) htext
  have hn : natText (spelledIn (2 ^ 4) "200000000000011".toList) = "144115188075855889".toList := by
    decide +kernel
  rw [hn, String.ofList_toList] at hnearest
  have hlost : Double.LosesTie (2 ^ 4) (spelledIn (2 ^ 4) "200000000000011".toList) :=
    ⟨1, ⟨2 ^ 52, 0, by decide, by decide, by decide, by decide +kernel⟩, by decide +kernel⟩
  have hfinite : nearest.isFinite = true := by
    have hmap : (readNumber "144115188075855889").map Double.isFinite = some true := by
      decide +kernel
    rw [hnearest] at hmap
    exact Option.some.inj hmap
  have hother : x ≠ nearest := by
    rw [ne_eq, hiff, hfinite]
    exact fun h => h.elim (fun hkept => hkept hlost) (by decide)
  exact ⟨hmark, htext, x, nearest, hx, hnearest, (hbelow hother).2⟩

/-- The spelling in base 16 is `2 ^ 57`, while the number is nearest to `2 ^ 57 + 32`. -/
theorem readNumber_hex_ne_decimal :
    spelledIn 16 "200000000000011".toList = 144115188075855889 ∧
    (readNumber "0x200000000000011").map Double.bits = some 0x4380000000000000 ∧
    (readNumber "144115188075855889").map Double.bits = some 0x4380000000000001 := by
  decide +kernel

end ListenQuery.Number

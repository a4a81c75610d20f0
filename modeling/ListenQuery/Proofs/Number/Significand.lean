import ListenQuery.Proofs.Number.Rounding

/-!
# Rounding to a significand

A number of at least 53 bits is a significand, which is its first 53 bits, with a rest behind it.
Rounding keeps the significand or takes the next one, as the rest is below or above one half of the
step from one to the other, and half a step goes to the even one.
-/

namespace ListenQuery.Number.Double

theorem floorPlace_eq {v p : Nat} (hlo : gridValue p ≤ v) (hhi : v < gridValue (p + 1)) :
    floorPlace v = p := by
  obtain ⟨hfloor, hceil⟩ := floorPlace_bounds v
  have hle := gridValue_strictMono.lt_iff_lt.1 (hfloor.trans_lt hhi)
  have hge := gridValue_strictMono.lt_iff_lt.1 (hlo.trans_lt hceil)
  omega

/-- The place of a significand times a power of two, counted in units. -/
def placeOf (significand exponent : Nat) : Nat := exponent * 2 ^ 52 + significand

theorem placeOf_succ (c e : Nat) : placeOf c e + 1 = placeOf (c + 1) e := Nat.add_assoc _ _ _

theorem gridValue_placeOf {c : Nat} (hlo : 2 ^ 52 ≤ c) (hhi : c ≤ 2 ^ 53) (e : Nat) :
    gridValue (placeOf c e) = c * 2 ^ e := by
  rw [gridValue_of_le (by unfold placeOf; omega), gridStep]
  rcases Nat.lt_or_ge c (2 ^ 53) with hlt | hge
  · have hdiv : placeOf c e / 2 ^ 52 - 1 = e := by unfold placeOf; omega
    have hmod : 2 ^ 52 + placeOf c e % 2 ^ 52 = c := by unfold placeOf; omega
    rw [hdiv, hmod]
  · have hdiv : placeOf c e / 2 ^ 52 - 1 = e + 1 := by unfold placeOf; omega
    have hmod : placeOf c e % 2 ^ 52 = 0 := by unfold placeOf; omega
    rw [hdiv, hmod, Nat.pow_succ, show c = 2 ^ 52 * 2 by omega]
    ring

/-- A rest that makes the significand in front of it the next one when it is rounded. -/
def RoundsUp (significand step rest : Nat) : Prop :=
  step < 2 * rest ∨ 2 * rest = step ∧ significand % 2 = 1

instance (significand step rest : Nat) : Decidable (RoundsUp significand step rest) :=
  inferInstanceAs (Decidable (_ ∨ _))

theorem nearestPlace_significand {c e r : Nat} (hlo : 2 ^ 52 ≤ c) (hhi : c < 2 ^ 53)
    (hr : r < 2 ^ e) :
    nearestPlace (c * 2 ^ e + r) 1 =
      min (placeOf c e + if RoundsUp c (2 ^ e) r then 1 else 0) infinityPlace := by
  have hvalue := gridValue_placeOf hlo hhi.le e
  have hnext : gridValue (placeOf c e + 1) = c * 2 ^ e + 2 ^ e := by
    rw [placeOf_succ, gridValue_placeOf (Nat.le_succ_of_le hlo) hhi, Nat.succ_mul]
  have hfloor : floorPlace (c * 2 ^ e + r) = placeOf c e :=
    floorPlace_eq (by rw [hvalue]; exact Nat.le_add_right _ _)
      (by rw [hnext]; exact Nat.add_lt_add_left hr _)
  have hparity : placeOf c e % 2 = c % 2 := by
    unfold placeOf
    omega
  rw [nearestPlace, Nat.div_one, hfloor]
  simp only [hvalue, hnext, hparity, Nat.one_mul]
  generalize placeOf c e = p
  generalize 2 ^ e = step at hr
  generalize c * step = v
  generalize infinityPlace = top
  by_cases hup : RoundsUp c step r
  · rw [if_pos hup]
    unfold RoundsUp at hup
    split_ifs <;> omega
  · rw [if_neg hup]
    unfold RoundsUp at hup
    split_ifs <;> omega

theorem gridValue_nearestPlace {c e : Nat} (hlo : 2 ^ 52 ≤ c) (hhi : c < 2 ^ 53)
    (hfinite : placeOf c e ≤ infinityPlace) :
    gridValue (nearestPlace (c * 2 ^ e) 1) = c * 2 ^ e := by
  have hnearest := nearestPlace_significand hlo hhi (Nat.two_pow_pos e)
  have hkept : ¬ RoundsUp c (2 ^ e) 0 := by
    have := Nat.two_pow_pos e
    unfold RoundsUp
    omega
  rw [Nat.add_zero, if_neg hkept, Nat.add_zero, Nat.min_eq_left hfinite] at hnearest
  rw [hnearest, gridValue_placeOf hlo hhi.le]

/-! ## Significands of whole numbers -/

/-- The first 53 bits of a number, their weight, and what is behind them. -/
structure HasSignificand (n significand exponent rest : Nat) : Prop where
  eq : n = significand * 2 ^ exponent + rest
  le_significand : 2 ^ 52 ≤ significand
  significand_lt : significand < 2 ^ 53
  rest_lt : rest < 2 ^ exponent

section

variable {n c s r : Nat}

theorem exists_hasSignificand (hn : 2 ^ 53 ≤ n) :
    ∃ c s r, HasSignificand n c s r ∧ 0 < s := by
  have hne : n ≠ 0 := by omega
  have hlog : 53 ≤ n.log2 := (Nat.le_log2 hne).2 hn
  obtain ⟨s, hs⟩ : ∃ s, n.log2 = 52 + s := ⟨n.log2 - 52, by omega⟩
  have hlo := Nat.log2_self_le hne
  have hhi := Nat.lt_log2_self (n := n)
  rw [hs, Nat.pow_add] at hlo
  rw [hs, show 52 + s + 1 = 53 + s by omega, Nat.pow_add] at hhi
  refine ⟨n / 2 ^ s, s, n % 2 ^ s, ⟨(Nat.div_add_mod' n _).symm, ?_, ?_, ?_⟩, by omega⟩
  · exact (Nat.le_div_iff_mul_le (Nat.two_pow_pos s)).2 hlo
  · exact (Nat.div_lt_iff_lt_mul (Nat.two_pow_pos s)).2 hhi
  · exact Nat.mod_lt n (Nat.two_pow_pos s)

theorem HasSignificand.bounds (h : HasSignificand n c s r) :
    2 ^ (52 + s) ≤ n ∧ n < 2 ^ (53 + s) := by
  have hlo := Nat.mul_le_mul_right (2 ^ s) h.le_significand
  have hhi := Nat.mul_le_mul_right (2 ^ s) (Nat.succ_le_of_lt h.significand_lt)
  have hrest := h.rest_lt
  rw [Nat.succ_mul] at hhi
  rw [Nat.pow_add, Nat.pow_add, h.eq]
  omega

theorem HasSignificand.unique {c' s' r' : Nat} (h : HasSignificand n c s r)
    (h' : HasSignificand n c' s' r') : c = c' ∧ s = s' ∧ r = r' := by
  obtain ⟨hlo, hhi⟩ := h.bounds
  obtain ⟨hlo', hhi'⟩ := h'.bounds
  have hle := (Nat.pow_lt_pow_iff_right (by decide)).1 (hlo.trans_lt hhi')
  have hge := (Nat.pow_lt_pow_iff_right (by decide)).1 (hlo'.trans_lt hhi)
  obtain rfl : s = s' := by omega
  have hpos := Nat.two_pow_pos s
  have hc : c = c' := by
    have hdiv : n / 2 ^ s = c := by
      rw [h.eq, Nat.mul_comm, Nat.mul_add_div hpos, Nat.div_eq_of_lt h.rest_lt, Nat.add_zero]
    have hdiv' : n / 2 ^ s = c' := by
      rw [h'.eq, Nat.mul_comm, Nat.mul_add_div hpos, Nat.div_eq_of_lt h'.rest_lt, Nat.add_zero]
    exact hdiv.symm.trans hdiv'
  subst hc
  have heq := h.eq.symm.trans h'.eq
  exact ⟨rfl, rfl, by omega⟩

theorem roundsUp_mul {step rest m : Nat} (hm : 0 < m) :
    RoundsUp c (step * m) (rest * m) ↔ RoundsUp c step rest := by
  unfold RoundsUp
  rw [← Nat.mul_assoc, Nat.mul_lt_mul_right hm, Nat.mul_left_inj hm.ne']

theorem two_pow_add_units (s : Nat) : 2 ^ (s + 1074) = 2 ^ s * unitsInOne := by
  rw [Nat.pow_add, unitsInOne]

theorem nearestPlace_of_hasSignificand (h : HasSignificand n c s r) :
    nearestPlace (n * unitsInOne) 1 =
      min (placeOf c (s + 1074) + if RoundsUp c (2 ^ s) r then 1 else 0) infinityPlace := by
  have hunits : n * unitsInOne = c * 2 ^ (s + 1074) + r * unitsInOne := by
    rw [h.eq, Nat.add_mul, Nat.mul_assoc, two_pow_add_units]
  have hrest : r * unitsInOne < 2 ^ (s + 1074) := by
    rw [two_pow_add_units]
    exact Nat.mul_lt_mul_of_pos_right h.rest_lt unitsInOne_pos
  rw [hunits, nearestPlace_significand h.le_significand h.significand_lt hrest, two_pow_add_units]
  simp only [roundsUp_mul unitsInOne_pos]

theorem gridValue_nearestPlace_units (hn : n < 2 ^ 53) :
    gridValue (nearestPlace (n * unitsInOne) 1) = n * unitsInOne := by
  rcases Nat.eq_zero_or_pos n with rfl | hpos
  · rw [Nat.zero_mul]
    decide
  · have hlog : n.log2 ≤ 52 := by
      have := (Nat.log2_lt hpos.ne').2 hn
      omega
    obtain ⟨j, hj⟩ : ∃ j, n.log2 + j = 52 := ⟨52 - n.log2, by omega⟩
    have hlo : 2 ^ 52 ≤ n * 2 ^ j := by
      rw [← hj, Nat.pow_add]
      exact Nat.mul_le_mul_right _ (Nat.log2_self_le hpos.ne')
    have hhi : n * 2 ^ j < 2 ^ 53 := by
      rw [show 53 = n.log2 + 1 + j by omega, Nat.pow_add]
      exact Nat.mul_lt_mul_of_pos_right Nat.lt_log2_self (Nat.two_pow_pos j)
    have hunits : n * unitsInOne = n * 2 ^ j * 2 ^ (1074 - j) := by
      rw [Nat.mul_assoc, ← Nat.pow_add, Nat.add_sub_cancel' (by omega)]
      rfl
    have hfinite : placeOf (n * 2 ^ j) (1074 - j) ≤ infinityPlace := by
      unfold placeOf infinityPlace
      omega
    rw [hunits]
    exact gridValue_nearestPlace hlo hhi hfinite

end

end ListenQuery.Number.Double

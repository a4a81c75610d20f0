import ListenQuery.Number.Double
import Mathlib.Order.Monotone.Basic
import Mathlib.Tactic.Positivity
import Mathlib.Tactic.Ring

/-!
# Rounding to the grid of doubles

The values on the grid grow from place to place by a power of two, and rounding down finds the last
place that is not above a number. So a number is rounded to the place whose midpoints with its
neighbours it lies between, the midpoints included where the place is even.
-/

namespace ListenQuery.Number.Double

/-- The distance from a place to the next one, in units. -/
def gridStep (place : Nat) : Nat := 2 ^ (place / 2 ^ 52 - 1)

theorem gridStep_pos (p : Nat) : 0 < gridStep p := Nat.two_pow_pos _

theorem gridValue_of_lt {p : Nat} (h : p < 2 ^ 52) : gridValue p = p := if_pos h

theorem gridValue_of_le {p : Nat} (h : 2 ^ 52 ≤ p) :
    gridValue p = (2 ^ 52 + p % 2 ^ 52) * gridStep p := if_neg (Nat.not_lt.2 h)

theorem gridValue_succ (p : Nat) : gridValue (p + 1) = gridValue p + gridStep p := by
  rcases Nat.lt_or_ge (p + 1) (2 ^ 52) with hlow | hhigh
  · have hstep : gridStep p = 1 := by rw [gridStep, Nat.div_eq_of_lt (by omega)]
    rw [gridValue_of_lt hlow, gridValue_of_lt (by omega), hstep]
  rcases Nat.lt_or_ge p (2 ^ 52) with hlast | hle
  · obtain rfl : p = 2 ^ 52 - 1 := by omega
    decide
  rw [gridValue_of_le hhigh, gridValue_of_le hle]
  -- Either both places have the same exponent, or the second begins the next one.
  rcases Nat.lt_or_ge (p % 2 ^ 52 + 1) (2 ^ 52) with hsame | hnext
  · have hdiv : (p + 1) / 2 ^ 52 = p / 2 ^ 52 := by omega
    have hmod : (p + 1) % 2 ^ 52 = p % 2 ^ 52 + 1 := by omega
    rw [gridStep, gridStep, hdiv, hmod]
    ring
  · have hdiv : (p + 1) / 2 ^ 52 = p / 2 ^ 52 + 1 := by omega
    have hmod : (p + 1) % 2 ^ 52 = 0 := by omega
    have hmod' : p % 2 ^ 52 = 2 ^ 52 - 1 := by omega
    obtain ⟨k, hk⟩ : ∃ k, p / 2 ^ 52 = k + 1 := ⟨p / 2 ^ 52 - 1, by omega⟩
    rw [gridStep, gridStep, hdiv, hmod, hmod', hk, Nat.add_sub_cancel, Nat.add_sub_cancel,
      Nat.pow_succ]
    ring

theorem gridValue_strictMono : StrictMono gridValue :=
  strictMono_nat_of_lt_succ fun p => by
    rw [gridValue_succ]
    exact Nat.lt_add_of_pos_right (gridStep_pos p)

theorem unitsInOne_pos : 0 < unitsInOne := by
  unfold unitsInOne
  positivity

theorem gridValue_eq_self {v : Nat} (h : v < 2 ^ 53) : gridValue v = v := by
  rcases Nat.lt_or_ge v (2 ^ 52) with hlow | hhigh
  · exact gridValue_of_lt hlow
  · have hdiv : v / 2 ^ 52 = 1 := by omega
    rw [gridValue_of_le hhigh, gridStep, hdiv]
    omega

theorem floorPlace_eq_self {v : Nat} (h : v < 2 ^ 53) : floorPlace v = v := by
  have hlog : v.log2 - 52 = 0 := by
    rcases Nat.eq_zero_or_pos v with rfl | hpos
    · decide
    · have := (Nat.log2_lt (Nat.pos_iff_ne_zero.1 hpos)).2 h
      omega
  simp [floorPlace, hlog]

theorem exists_floorPlace_eq {v : Nat} (h : 2 ^ 53 ≤ v) :
    ∃ s, floorPlace v = s * 2 ^ 52 + v / 2 ^ s ∧ 2 ^ 52 ≤ v / 2 ^ s ∧ v / 2 ^ s < 2 ^ 53 := by
  have hne : v ≠ 0 := by omega
  obtain ⟨s, hs⟩ : ∃ s, v.log2 = 52 + s := by
    have : 53 ≤ v.log2 := (Nat.le_log2 hne).2 h
    exact ⟨v.log2 - 52, by omega⟩
  refine ⟨s, ?_, ?_⟩
  · rw [floorPlace, hs, Nat.add_sub_cancel_left, Nat.shiftRight_eq_div_pow]
  · rw [Nat.le_div_iff_mul_le (Nat.two_pow_pos s), Nat.div_lt_iff_lt_mul (Nat.two_pow_pos s),
      ← Nat.pow_add, ← Nat.pow_add, ← hs]
    refine ⟨Nat.log2_self_le hne, ?_⟩
    have := Nat.lt_log2_self (n := v)
    rwa [hs, show 52 + s + 1 = 53 + s by omega] at this

theorem floorPlace_bounds (v : Nat) :
    gridValue (floorPlace v) ≤ v ∧ v < gridValue (floorPlace v + 1) := by
  rw [gridValue_succ]
  rcases Nat.lt_or_ge v (2 ^ 53) with hlow | hhigh
  · rw [floorPlace_eq_self hlow, gridValue_eq_self hlow]
    exact ⟨Nat.le_refl _, Nat.lt_add_of_pos_right (gridStep_pos v)⟩
  · obtain ⟨s, hfloor, hmin, hmax⟩ := exists_floorPlace_eq hhigh
    have hstep : gridStep (floorPlace v) = 2 ^ s := by
      rw [gridStep, hfloor, show (s * 2 ^ 52 + v / 2 ^ s) / 2 ^ 52 - 1 = s by omega]
    have hvalue : gridValue (floorPlace v) = v / 2 ^ s * 2 ^ s := by
      rw [gridValue_of_le (by omega), hstep, hfloor,
        show 2 ^ 52 + (s * 2 ^ 52 + v / 2 ^ s) % 2 ^ 52 = v / 2 ^ s by omega]
    rw [hvalue, hstep]
    exact ⟨Nat.div_mul_le_self _ _, Nat.lt_div_mul_add (Nat.two_pow_pos s)⟩

/-- The numbers that are rounded to a place, counted in half units: those between the midpoints
with its neighbours. -/
def RoundsTo (place num den : Nat) : Prop :=
  let lo := den * (gridValue (place - 1) + gridValue place)
  let hi := den * (gridValue place + gridValue (place + 1))
  if place % 2 = 0 then lo ≤ 2 * num ∧ 2 * num ≤ hi else lo < 2 * num ∧ 2 * num < hi

theorem RoundsTo.weaken {p num den : Nat} (h : RoundsTo p num den) :
    den * gridValue (p - 1) + den * gridValue p ≤ 2 * num ∧
      2 * num ≤ den * gridValue p + den * gridValue (p + 1) := by
  rw [← Nat.mul_add, ← Nat.mul_add]
  unfold RoundsTo at h
  split at h
  · exact h
  · exact ⟨h.1.le, h.2.le⟩

theorem floorPlace_of_roundsTo {p num den : Nat} (hden : 0 < den) (h : RoundsTo p num den) :
    floorPlace (num / den) = p - 1 ∨ floorPlace (num / den) = p := by
  obtain ⟨hlo, hhi⟩ := h.weaken
  obtain ⟨hfloor, hceil⟩ := floorPlace_bounds (num / den)
  rw [Nat.le_div_iff_mul_le hden, Nat.mul_comm] at hfloor
  rw [Nat.div_lt_iff_lt_mul hden, Nat.mul_comm] at hceil
  generalize floorPlace (num / den) = q at hfloor hceil
  have hbelow : p - 1 ≤ q := by
    by_contra hlt
    have hbelow := gridValue_strictMono.monotone (show q + 1 ≤ p - 1 by omega)
    have hmono := Nat.mul_le_mul_left den hbelow
    have hup := Nat.mul_le_mul_left den (gridValue_strictMono.monotone (show p - 1 ≤ p by omega))
    omega
  have habove : q ≤ p := by
    by_contra hlt
    have hmono := Nat.mul_le_mul_left den (gridValue_strictMono.monotone (show p + 1 ≤ q by omega))
    have hup := Nat.mul_lt_mul_of_pos_left (gridValue_strictMono (Nat.lt_add_one p)) hden
    omega
  omega

theorem nearestPlace_of_roundsTo {p num den : Nat} (hden : 0 < den) (hpos : 0 < p)
    (hfinite : p < infinityPlace) (h : RoundsTo p num den) : nearestPlace num den = p := by
  have hq := floorPlace_of_roundsTo hden h
  rw [nearestPlace]
  simp only
  generalize floorPlace (num / den) = q at hq
  rw [if_neg (by omega)]
  unfold RoundsTo at h
  simp only at h
  rcases hq with rfl | rfl
  · rw [Nat.sub_add_cancel hpos]
    split at h
    · rw [if_neg (by omega)]
      split
      · rfl
      · rw [if_neg (by omega)]
    · rw [if_neg (by omega), if_pos (by omega)]
  · split at h
    · split
      · rfl
      · rw [if_neg (by omega)]
    · rw [if_pos (by omega)]

/-- The place that a number is rounded to is the one it lies nearest to. The last place, which is
infinity, also takes all that is above it. -/
theorem roundsTo_nearestPlace {num den : Nat} (hden : 0 < den) :
    (nearestPlace num den < infinityPlace → RoundsTo (nearestPlace num den) num den) ∧
      den * (gridValue (nearestPlace num den - 1) + gridValue (nearestPlace num den)) ≤ 2 * num := by
  obtain ⟨hfloor, hceil⟩ := floorPlace_bounds (num / den)
  rw [Nat.le_div_iff_mul_le hden, Nat.mul_comm] at hfloor
  rw [Nat.div_lt_iff_lt_mul hden, Nat.mul_comm] at hceil
  rw [nearestPlace]
  simp only
  generalize floorPlace (num / den) = q at hfloor hceil ⊢
  have hprev : den * gridValue (q - 1) ≤ den * gridValue q :=
    Nat.mul_le_mul_left den (gridValue_strictMono.monotone (Nat.sub_le q 1))
  have hnext : den * gridValue (q + 1) < den * gridValue (q + 1 + 1) :=
    Nat.mul_lt_mul_of_pos_left (gridValue_strictMono (Nat.lt_add_one _)) hden
  have hodd (h : q % 2 ≠ 0) : den * gridValue (q - 1) < den * gridValue q :=
    Nat.mul_lt_mul_of_pos_left (gridValue_strictMono (by omega)) hden
  split
  · next htop =>
    have hle := Nat.mul_le_mul_left den (gridValue_strictMono.monotone htop)
    have hbelow : den * gridValue (infinityPlace - 1) ≤ den * gridValue infinityPlace :=
      Nat.mul_le_mul_left den (gridValue_strictMono.monotone (Nat.sub_le _ 1))
    refine ⟨fun h => absurd h (Nat.lt_irrefl _), ?_⟩
    rw [Nat.mul_add]
    omega
  · split
    · next hbelow =>
      unfold RoundsTo
      simp only [Nat.mul_add] at hbelow ⊢
      exact ⟨fun _ => by split <;> omega, by omega⟩
    split
    · next habove =>
      unfold RoundsTo
      simp only [Nat.mul_add, Nat.add_sub_cancel] at habove ⊢
      exact ⟨fun _ => by split <;> omega, by omega⟩
    · next hbelow habove =>
      unfold RoundsTo
      simp only [Nat.mul_add] at hbelow habove
      split
      · simp only [Nat.mul_add]
        exact ⟨fun _ => by omega, by omega⟩
      · simp only [Nat.mul_add, Nat.add_sub_cancel]
        exact ⟨fun _ => by split <;> omega, by omega⟩

end ListenQuery.Number.Double

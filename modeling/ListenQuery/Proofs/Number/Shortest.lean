import ListenQuery.Number.Shortest
import ListenQuery.Proofs.Number.Nearest

/-!
# The shortest digits are near

Some grid has a point between the midpoints around a double, at the latest that of the multiples of
`10 ^ -324`, so the search for digits ends with a decimal near the double.
-/

namespace ListenQuery.Number.Double

open Decimal

theorem pointNear_inside {tie : Tie} {closed : Bool} {lo value hi unit d : Nat}
    (h : pointNear tie closed lo value hi unit = some d) :
    if closed then lo ≤ d * unit ∧ d * unit ≤ hi else lo < d * unit ∧ d * unit < hi := by
  cases closed
  all_goals
    simp only [pointNear, if_true, if_false, Bool.false_eq_true] at h ⊢
    split_ifs at h with hbelow habove habove
    · obtain rfl := Option.some.inj h
      simp only [Bool.and_eq_true, decide_eq_true_eq] at habove
      exact habove.1
    · obtain rfl := Option.some.inj h
      simpa only [Bool.and_eq_true, decide_eq_true_eq] using hbelow
    · obtain rfl := Option.some.inj h
      simpa only [Bool.and_eq_true, decide_eq_true_eq] using habove

theorem exists_pointNear {tie : Tie} {closed : Bool} {lo value hi unit : Nat}
    (hlo : lo < value / unit * unit) (hhi : value / unit * unit < hi) :
    ∃ d, pointNear tie closed lo value hi unit = some d := by
  have hinside : (if closed then decide (lo ≤ value / unit * unit) && decide (value / unit * unit ≤ hi)
      else decide (lo < value / unit * unit) && decide (value / unit * unit < hi)) = true := by
    cases closed <;> simp [hlo, hhi, hlo.le, hhi.le]
  unfold pointNear
  simp only [hinside, if_true]
  split_ifs <;> exact ⟨_, rfl⟩

theorem near_of_pointAt {tie : Tie} {place d : Nat} {exponent : Int}
    (h : pointAt tie place exponent = some d) : Near place d exponent := by
  cases exponent with
  | ofNat e =>
    have hpoint := pointNear_inside h
    have hunit : d * (2 * unitsInOne * 10 ^ e) = 2 * (d * 10 ^ e * unitsInOne) := by ring
    simpa [Near, RoundsTo, hunit] using hpoint
  | negSucc e =>
    have hpoint := pointNear_inside h
    have hunit : d * (2 * unitsInOne) = 2 * (d * unitsInOne) := by ring
    simpa [Near, RoundsTo, hunit, Int.neg_negSucc, Nat.mul_comm _ (10 ^ (e + 1))] using hpoint

/-- Multiples of less than half a unit lie closer together than the midpoints around a double. -/
theorem exists_pointAt {tie : Tie} {place e n : Nat} (hpos : 0 < place) (he : n = e + 1)
    (hn : 2 * unitsInOne < 10 ^ n) : ∃ d, pointAt tie place (.negSucc e) = some d := by
  have hbefore := gridValue_strictMono (show place - 1 < place by omega)
  have hafter := gridValue_strictMono (Nat.lt_add_one place)
  rw [pointAt, ← he]
  generalize 10 ^ n = scale at hn
  have hunit : 0 < 2 * unitsInOne := Nat.mul_pos (by decide) unitsInOne_pos
  have hle := Nat.div_mul_le_self (2 * gridValue place * scale) (2 * unitsInOne)
  have hlt := Nat.lt_div_mul_add hunit (a := 2 * gridValue place * scale)
  have hlo : (gridValue (place - 1) + gridValue place) * scale + scale ≤
      2 * gridValue place * scale := by
    rw [← Nat.succ_mul]
    exact Nat.mul_le_mul_right scale (by omega)
  have hhi : 2 * gridValue place * scale < (gridValue place + gridValue (place + 1)) * scale :=
    Nat.mul_lt_mul_of_pos_right (by omega) (by omega)
  exact exists_pointNear (by omega) (by omega)

theorem pointAt_shortestFrom {tie : Tie} {place : Nat} {exponent found : Int} {steps : Nat}
    (hle : found ≤ exponent) (hlt : exponent < found + steps)
    (hfound : ∃ d, pointAt tie place found = some d) :
    pointAt tie place (shortestFrom tie place steps exponent).2 =
      some (shortestFrom tie place steps exponent).1 := by
  induction steps generalizing exponent with
  | zero => omega
  | succ steps ih =>
    rw [shortestFrom]
    split
    · assumption
    · next hnone =>
      have hne : found ≠ exponent := by
        rintro rfl
        simp [hnone] at hfound
      exact ih (by omega) (by omega)

theorem near_shortest (tie : Tie) {place : Nat} (hpos : 0 < place) :
    Near place (shortest tie place).1 (shortest tie place).2 :=
  near_of_pointAt <| pointAt_shortestFrom (by decide) (by decide) <|
    exists_pointAt (e := 323) (n := 324) hpos rfl unitsInOne_lt

end ListenQuery.Number.Double

import ListenQuery.Proofs.Filter.Evaluation
import ListenQuery.Proofs.Json.NumberText
import ListenQuery.Proofs.Listen.RoundTrip
import ListenQuery.Proofs.Number.Rational

/-!
# Numbers in order

A number in data and a decimal literal are compared as doubles. Their order is never the opposite
of the order of the two exact values: rounding can only make them equal, and it does not do that
to integers of at most 53 bits.
-/

namespace ListenQuery

open Number Text

namespace Value

theorem compareWith_eq_nearest [RealReading] (hnearest : RealReading.IsNearest)
    {data literal : String} {n : Numeral} {a b : ℚ} (hdata : Json.read data = .ok (.number n))
    (ha : HasValue data a) (hb : HasValue literal b) :
    (ofJson (.number n)).compareWith literal =
      .ok (some (compare (Double.signedNearest a) (Double.signedNearest b))) := by
  obtain ⟨t, ht, htext, hn⟩ := Json.read_eq_number hnearest hdata
  obtain ⟨y, hread, hy⟩ := hb.exists_readNumber
  obtain rfl := ha.unique ⟨t, ht, htext, rfl⟩
  rw [ofJson, compareWith, orderNumber, hread, hn, Option.map_some, Double.order,
    Decimal.signedPlace_toDouble, hy]

/-- Comparing a number in data with a decimal literal always gives an order. It is not the
opposite of the order of their exact values, it is equality if those are equal, and it is exact
for integers of absolute value at most two to the power of 53. -/
theorem compareWith_keeps_order [RealReading] (hnearest : RealReading.IsNearest)
    {data literal : String} {n : Numeral} {b : ℚ} (hdata : Json.read data = .ok (.number n))
    (hliteral : HasValue literal b) :
    (∃ a, HasValue data a) ∧ ∀ a, HasValue data a → ∃ order,
      (ofJson (.number n)).compareWith literal = .ok (some order) ∧
      (a < b → order ≠ .gt) ∧ (b < a → order ≠ .lt) ∧ (a = b → order = .eq) ∧
      ∀ i j : Int, a = i → b = j → i.natAbs ≤ 2 ^ 53 → j.natAbs ≤ 2 ^ 53 →
        order = compare i j := by
  obtain ⟨t, ht, htext, -⟩ := Json.read_eq_number hnearest hdata
  refine ⟨⟨_, t, ht, htext, rfl⟩, fun a ha => ?_⟩
  refine ⟨_, compareWith_eq_nearest hnearest hdata ha hliteral, fun h => ?lt, fun h => ?gt,
    fun h => ?eq, fun i j hi hj hsize hsize' => ?exact⟩
  case lt => exact compare_le_iff_le.2 (Double.signedNearest_mono h.le)
  case gt => exact compare_ge_iff_ge.2 (Double.signedNearest_mono h.le)
  case eq => rw [h, compare_eq_iff_eq]
  case exact => rw [hi, hj, Double.compare_signedNearest hsize hsize']

theorem compareWith_keeps_order_rounded :
    @Json.read Listen.nearestReading "9007199254740993" =
        .ok (.number (.integer 9007199254740993 (by decide))) ∧
      HasValue "9007199254740993" 9007199254740993 ∧
      HasValue "9007199254740992.5" (18014398509481985 / 2) ∧
      ∃ order, (ofJson (.number (.integer 9007199254740993 (by decide)))).compareWith
        "9007199254740992.5" = .ok (some order) ∧ order ≠ .lt := by
  have hread : @Json.read Listen.nearestReading "9007199254740993" =
      .ok (.number (.integer 9007199254740993 (by decide))) := by
    delta Json.read Cursor.value
    rfl
  have hdata : HasValue "9007199254740993" 9007199254740993 :=
    hasValue_iff.2 ⟨⟨false, 9007199254740993, 0⟩, by decide, by norm_num [Decimal.value]⟩
  have hliteral : HasValue "9007199254740992.5" (18014398509481985 / 2) :=
    hasValue_iff.2 ⟨⟨false, 90071992547409925, -1⟩, by decide, by norm_num [Decimal.value]⟩
  obtain ⟨order, horder, -, hge, -⟩ :=
    (@compareWith_keeps_order Listen.nearestReading Listen.isNearest_nearestReading _ _ _ _ hread
      hliteral).2 _ hdata
  exact ⟨hread, hdata, hliteral, order, horder, hge (by norm_num)⟩

end Value

end ListenQuery

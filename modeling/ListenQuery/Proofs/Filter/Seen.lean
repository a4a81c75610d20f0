import ListenQuery.Filter.Basic
import ListenQuery.Proofs.Filter.TextOrder
import ListenQuery.Proofs.Listen.Edits

/-!
# What a filter sees of a listen

A condition sees whether an attribute is a list, its order with literals and whether it is true. So
it does not tell apart what is absent and what is null, two lists or two objects, whatever they
hold. Listens at the same time whose attributes are seen alike get the same verdict.
-/

namespace ListenQuery

open Number

namespace Number.Double

variable {x y : Double}

theorem order_eq_iff : x.order y = .eq ↔ x.signedPlace = y.signedPlace := by
  simp [order]

theorem isZero_eq_decide (x : Double) : x.isZero = decide (x.signedPlace = 0) := by
  rw [isZero, signedPlace]
  split <;> simp

theorem order_congr (h : x.order y = .eq) (z : Double) : x.order z = y.order z := by
  rw [order, order, order_eq_iff.1 h]

theorem isZero_congr (h : x.order y = .eq) : x.isZero = y.isZero := by
  rw [isZero_eq_decide, isZero_eq_decide, order_eq_iff.1 h]

end Number.Double

namespace Value

/-- The values that no condition tells apart: the same text, boolean or number, two that are absent
or null, two lists or two objects. The two zeros are the same number. -/
inductive SeenAlike : Value → Value → Prop
  | missing {v w : Value} (hv : v = .absent ∨ v = .null) (hw : w = .absent ∨ w = .null) :
    SeenAlike v w
  | bool (b : Bool) : SeenAlike (.bool b) (.bool b)
  | number {x y : Double} (h : x.order y = .eq) : SeenAlike (.number x) (.number y)
  | text (s : String) : SeenAlike (.text s) (.text s)
  | list (xs ys : List Value) : SeenAlike (.list xs) (.list ys)
  | object : SeenAlike .object .object

variable {v w : Value}

theorem SeenAlike.refl (v : Value) : v.SeenAlike v := by
  cases v with
  | absent => exact .missing (.inl rfl) (.inl rfl)
  | null => exact .missing (.inr rfl) (.inr rfl)
  | bool b => exact .bool b
  | number x => exact .number x.order_self
  | text s => exact .text s
  | list items => exact .list items items
  | object => exact .object

theorem SeenAlike.isList_eq (h : v.SeenAlike w) : v.isList = w.isList := by
  cases h with
  | missing hv hw => obtain rfl | rfl := hv <;> obtain rfl | rfl := hw <;> rfl
  | _ => rfl

theorem SeenAlike.compareWith_eq (h : v.SeenAlike w) (literal : String) :
    v.compareWith literal = w.compareWith literal := by
  cases h with
  | missing hv hw => obtain rfl | rfl := hv <;> obtain rfl | rfl := hw <;> rfl
  | number h => simp only [compareWith, orderNumber, funext (Double.order_congr h)]
  | _ => rfl

theorem SeenAlike.isTruthy_eq (h : v.SeenAlike w) : v.isTruthy = w.isTruthy := by
  cases h with
  | missing hv hw => obtain rfl | rfl := hv <;> obtain rfl | rfl := hw <;> rfl
  | number h => simp only [isTruthy, Double.isZero_congr h]
  | _ => rfl

theorem SeenAlike.evaluate_eq (h : v.SeenAlike w) (c : Condition) :
    evaluate c v = evaluate c w := by
  obtain ⟨key, operator, operand⟩ := c
  by_cases hoperator : operator = .xor
  · subst hoperator
    have hlist := h.isList_eq
    have htruth := h.isTruthy_eq
    cases operand <;> simp only [evaluate, evaluateScalar, hlist, htruth]
  · exact evaluate_congr h.isList_eq hoperator (alike_of_compareWith h.compareWith_eq operand)

end Value

theorem checkAll_congr {get get' : String → Value} {conditions : List Condition}
    (h : ∀ c ∈ conditions, evaluate c (get c.key) = evaluate c (get' c.key)) :
    checkAll get conditions = checkAll get' conditions := by
  induction conditions with
  | nil => rfl
  | cons c rest ih =>
    obtain ⟨hc, hrest⟩ := List.forall_mem_cons.1 h
    rw [checkAll, checkAll, hc, ih hrest]

theorem Filter.check_congr {f : Filter} {l l' : Listen} (htime : l.listenedAt = l'.listenedAt)
    (h : ∀ c ∈ f.conditions, evaluate c (l.get c.key) = evaluate c (l'.get c.key)) :
    f.check l = f.check l' := by
  rw [check, check, htime, checkAll_congr h]

namespace Listen

theorem seenAlike_insertInfo (l : Listen) (key : String) {value value' : Json}
    (h : (Value.ofJson value).SeenAlike (.ofJson value')) (k : String) :
    ((l.insertInfo key value).get k).SeenAlike ((l.insertInfo key value').get k) := by
  rw [get_insertInfo, get_insertInfo]
  by_cases hk : k = key
  · rw [if_pos hk, if_pos hk]
    cases l.primary k with
    | none => exact h
    | some v => exact .refl v
  · rw [if_neg hk, if_neg hk]
    exact .refl _

theorem seenAlike_insertInfo_null {l : Listen} {key : String} (h : l.get key = .absent)
    (k : String) : ((l.insertInfo key .null).get k).SeenAlike (l.get k) := by
  rw [get_insertInfo]
  by_cases hk : k = key
  · rw [if_pos hk]
    cases hprimary : l.primary k with
    | none => exact .missing (.inr rfl) (.inl (hk ▸ h))
    | some v =>
      have hget : l.get k = v := by simp [get, hprimary]
      exact hget ▸ .refl v
  · rw [if_neg hk]
    exact .refl _

end Listen

/-- A filter gives the same verdict on listens at the same time if the attributes that its
conditions name are seen alike. So it does not see whether a missing attribute is given as null, nor
what is in a list. -/
theorem Filter.check_seenAlike (f : Filter) (l : Listen) :
    (∀ l' : Listen, l.listenedAt = l'.listenedAt →
      (∀ c ∈ f.conditions, (l.get c.key).SeenAlike (l'.get c.key)) → f.check l = f.check l') ∧
    (∀ key, l.get key = .absent → f.check (l.insertInfo key .null) = f.check l) ∧
    ∀ key items items',
      f.check (l.insertInfo key (.array items)) = f.check (l.insertInfo key (.array items')) := by
  refine ⟨fun l' htime h => ?_, fun key habsent => ?_, fun key items items' => ?_⟩
  · exact check_congr htime fun c hc => (h c hc).evaluate_eq c
  · exact check_congr rfl fun c _ => (Listen.seenAlike_insertInfo_null habsent c.key).evaluate_eq c
  · have hlists : (Value.ofJson (.array items)).SeenAlike (.ofJson (.array items')) := .list _ _
    exact check_congr rfl fun c _ => (l.seenAlike_insertInfo key hlists c.key).evaluate_eq c

theorem Filter.check_seenAlike_release :
    let f : Filter :=
      ⟨.default, [⟨"release_name", .xor, .literal "1"⟩, ⟨"tags", .eq, .literal "x"⟩]⟩
    let l := (Listen.ofNames 5 "A" "T").insertInfo "tags" (.array [])
    let l' := ((Listen.ofNames 5 "A" "T").insertInfo "release_name" .null).insertInfo "tags"
      (.array [.string "x"])
    l.get "release_name" = .absent ∧ l'.get "release_name" = .null ∧
      (∀ c ∈ f.conditions, (l.get c.key).SeenAlike (l'.get c.key)) ∧ f.check l = f.check l' := by
  intro f l l'
  have habsent : l.get "release_name" = .absent := rfl
  have hnull : l'.get "release_name" = .null := by
    simp [l', Listen.get_insertInfo]
    rfl
  have halike : ∀ c ∈ f.conditions, (l.get c.key).SeenAlike (l'.get c.key) := by
    simp only [f, List.forall_mem_cons]
    refine ⟨?_, ?_, nofun⟩
    · rw [habsent, hnull]
      exact .missing (.inl rfl) (.inr rfl)
    · simp only [l, l', Listen.get_insertInfo, if_true]
      exact .list _ _
  exact ⟨habsent, hnull, halike, (f.check_seenAlike l).1 l' rfl halike⟩

end ListenQuery

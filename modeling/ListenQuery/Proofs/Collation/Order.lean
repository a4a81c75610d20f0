import ListenQuery.Collation.Order

/-!
# The order of texts as a preorder

Sort keys are ordered level by level, and each level is ordered weight by weight. So the order of
texts is total and transitive, and two texts share a place in it exactly if they have the same sort
key.
-/

namespace ListenQuery.Collation

open Std

instance : Ord SortKey := ⟨SortKey.compare⟩

instance : TransOrd SortKey :=
  inferInstanceAs (TransCmp (compareLex (compareOn SortKey.primaries)
    (compareLex (compareOn SortKey.secondaries) (compareOn SortKey.tertiaries))))

instance : LawfulEqOrd SortKey where
  eq_of_compare {a b} h := by
    change SortKey.compare a b = .eq at h
    simp only [SortKey.compare, Ordering.then_eq_eq, LawfulEqOrd.compare_eq_iff_eq] at h
    obtain ⟨hprimaries, hsecondaries, htertiaries⟩ := h
    cases a
    cases b
    simp_all

instance : TransCmp collate := inferInstanceAs (TransCmp (compareOn sortKey))

theorem collate_self (a : String) : collate a a = .eq := ReflCmp.compare_self

theorem collate_swap (a b : String) : collate b a = (collate a b).swap := OrientedCmp.eq_swap

theorem collate_ne_gt_trans {a b c : String} (hab : collate a b ≠ .gt) (hbc : collate b c ≠ .gt) :
    collate a c ≠ .gt := by
  have hle := TransCmp.isLE_trans (Ordering.isLE_iff_ne_gt.2 hab) (Ordering.isLE_iff_ne_gt.2 hbc)
  exact Ordering.isLE_iff_ne_gt.1 hle

end ListenQuery.Collation

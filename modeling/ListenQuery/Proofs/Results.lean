import Mathlib.Data.List.Forall2

/-!
# Results

A chain of results succeeds exactly if each of its steps does, and collecting the results of a list
succeeds with the list of their values.
-/

namespace ListenQuery

variable {ε α β : Type}

@[simp] theorem pure_eq_ok (x : α) : (pure x : Except ε α) = .ok x := rfl

@[simp] theorem ok_bind (x : α) (f : α → Except ε β) : (.ok x >>= f) = f x := rfl

@[simp] theorem map_ok (f : α → β) (x : α) : (Except.ok x : Except ε α).map f = .ok (f x) := rfl

@[simp] theorem map_error (f : α → β) (e : ε) : (.error e : Except ε α).map f = .error e := rfl

theorem bind_eq_ok_iff {x : Except ε α} {f : α → Except ε β} {y : β} :
    (x >>= f) = .ok y ↔ ∃ a, x = .ok a ∧ f a = .ok y := by
  cases x with
  | error e =>
    constructor
    · intro h
      cases h
    · intro h
      obtain ⟨a, hx, -⟩ := h
      cases hx
  | ok a =>
    constructor
    · intro h
      exact ⟨a, rfl, h⟩
    · intro h
      obtain ⟨_, ⟨⟩, h⟩ := h
      exact h

theorem cases_of_bind_eq_error {x : Except ε α} {f : α → Except ε β} {e : ε}
    (h : (x >>= f) = .error e) : x = .error e ∨ ∃ a, x = .ok a ∧ f a = .error e := by
  cases x with
  | error e' => exact .inl (congrArg Except.error (Except.error.inj h))
  | ok a => exact .inr ⟨a, rfl, h⟩

theorem map_eq_ok_iff {x : Except ε α} {f : α → β} {y : β} :
    x.map f = .ok y ↔ ∃ a, x = .ok a ∧ f a = y := by
  cases x with
  | error e =>
    constructor
    · intro h
      cases h
    · intro h
      obtain ⟨a, hx, -⟩ := h
      cases hx
  | ok a =>
    constructor
    · intro h
      exact ⟨a, rfl, Except.ok.inj h⟩
    · intro h
      obtain ⟨_, ⟨⟩, rfl⟩ := h
      rfl

theorem map_eq_error_iff {x : Except ε α} {f : α → β} {e : ε} :
    x.map f = .error e ↔ x = .error e := by
  cases x <;> simp

theorem mapError_eq_ok_iff {ε' : Type} {x : Except ε α} {f : ε → ε'} {y : α} :
    x.mapError f = .ok y ↔ x = .ok y := by
  cases x <;> simp [Except.mapError]

theorem mapError_eq_error_iff {ε' : Type} {x : Except ε α} {f : ε → ε'} {e : ε'} :
    x.mapError f = .error e ↔ ∃ cause, x = .error cause ∧ f cause = e := by
  cases x <;> simp [Except.mapError]

theorem mapM_eq_ok_iff {f : α → Except ε β} {xs : List α} {ys : List β} :
    xs.mapM f = .ok ys ↔ List.Forall₂ (fun x y => f x = .ok y) xs ys := by
  induction xs generalizing ys with
  | nil => simp [eq_comm]
  | cons x xs ih =>
    simp only [List.mapM_cons, bind_eq_ok_iff, pure_eq_ok, Except.ok.injEq, ih,
      List.forall₂_cons_left_iff]
    constructor
    · intro h
      obtain ⟨y, hy, rest, hrest, rfl⟩ := h
      exact ⟨y, rest, hy, hrest, rfl⟩
    · intro h
      obtain ⟨y, rest, hy, hrest, rfl⟩ := h
      exact ⟨y, hy, rest, hrest, rfl⟩

theorem values_unique {f : α → Except ε β} {xs : List α} {ys zs : List β}
    (hy : List.Forall₂ (fun x y => f x = .ok y) xs ys)
    (hz : List.Forall₂ (fun x z => f x = .ok z) xs zs) : ys = zs :=
  Except.ok.inj ((mapM_eq_ok_iff.2 hy).symm.trans (mapM_eq_ok_iff.2 hz))

theorem mapM_eq_error_iff {f : α → Except ε β} {xs : List α} {e : ε} :
    xs.mapM f = .error e ↔
      ∃ before x after, xs = before ++ x :: after ∧ (∀ y ∈ before, ∃ z, f y = .ok z) ∧
        f x = .error e := by
  induction xs with
  | nil => simp
  | cons x xs ih =>
    rw [List.mapM_cons]
    constructor
    · intro h
      obtain hx | ⟨z, hx, hrest⟩ := cases_of_bind_eq_error h
      · exact ⟨[], x, xs, rfl, by simp, hx⟩
      · have hmore : xs.mapM f = .error e := by
          obtain hmore | ⟨_, -, hpure⟩ := cases_of_bind_eq_error hrest
          · exact hmore
          · cases hpure
        obtain ⟨before, y, after, rfl, hbefore, hy⟩ := ih.1 hmore
        exact ⟨x :: before, y, after, rfl, List.forall_mem_cons.2 ⟨⟨z, hx⟩, hbefore⟩, hy⟩
    · intro h
      obtain ⟨before, y, after, hsplit, hbefore, hy⟩ := h
      cases before with
      | nil =>
        obtain ⟨rfl, rfl⟩ := List.cons.inj hsplit
        rw [hy]
        rfl
      | cons first before =>
        obtain ⟨rfl, rfl⟩ := List.cons.inj hsplit
        obtain ⟨⟨z, hz⟩, hbefore⟩ := List.forall_mem_cons.1 hbefore
        rw [hz, ok_bind, ih.2 ⟨before, y, after, rfl, hbefore, hy⟩]
        rfl

theorem forall₂_append_left_iff {R : α → β → Prop} {xs xs' : List α} {ys : List β} :
    List.Forall₂ R (xs ++ xs') ys ↔
      ∃ zs zs', List.Forall₂ R xs zs ∧ List.Forall₂ R xs' zs' ∧ ys = zs ++ zs' := by
  induction xs generalizing ys with
  | nil => simp
  | cons x xs ih =>
    constructor
    · intro h
      cases h with
      | cons hx hrest =>
        obtain ⟨zs, zs', h, h', rfl⟩ := ih.1 hrest
        exact ⟨_ :: zs, zs', .cons hx h, h', rfl⟩
    · intro hsplit
      obtain ⟨zs, zs', _ | ⟨hx, h⟩, h', rfl⟩ := hsplit
      exact .cons hx (ih.2 ⟨_, zs', h, h', rfl⟩)

theorem exists_mem_of_forall₂ {R : α → β → Prop} {xs : List α} {ys : List β}
    (h : List.Forall₂ R xs ys) {x : α} (hx : x ∈ xs) : ∃ y ∈ ys, R x y := by
  induction h with
  | nil => cases hx
  | @cons a b xs ys hab _ ih =>
    rcases List.mem_cons.1 hx with rfl | hx
    · exact ⟨b, List.mem_cons_self, hab⟩
    · obtain ⟨y, hy, hxy⟩ := ih hx
      exact ⟨y, List.mem_cons_of_mem _ hy, hxy⟩

theorem exists_forall₂_iff {R : α → β → Prop} {xs : List α} :
    (∃ ys, List.Forall₂ R xs ys) ↔ ∀ x ∈ xs, ∃ y, R x y := by
  induction xs with
  | nil => simp
  | cons x xs ih =>
    rw [List.forall_mem_cons, ← ih]
    constructor
    · intro hall
      obtain ⟨_, _ | ⟨h, hrest⟩⟩ := hall
      exact ⟨⟨_, h⟩, _, hrest⟩
    · intro hall
      obtain ⟨⟨y, h⟩, ys, hrest⟩ := hall
      exact ⟨y :: ys, .cons h hrest⟩

end ListenQuery

/-!
# Fields by name

Named values in the order of their names, with at most one for each name. A later value for a name
takes the place of the earlier one. The members of a JSON object are a plain list of fields, since
the values are nested in them; all other fields carry the proof that they are in order.
-/

namespace ListenQuery

abbrev Fields (α : Type) := List (String × α)

namespace Fields

variable {α : Type}

def insert (name : String) (value : α) : Fields α → Fields α
  | [] => [(name, value)]
  | (n, v) :: rest =>
    if name < n then (name, value) :: (n, v) :: rest
    else if name = n then (name, value) :: rest
    else (n, v) :: insert name value rest

def erase (name : String) (fields : Fields α) : Fields α := fields.filter (·.1 ≠ name)

def get? (name : String) (fields : Fields α) : Option α := fields.lookup name

@[simp] theorem get?_nil (k : String) : get? k ([] : Fields α) = none := rfl

@[simp] theorem get?_cons (k name : String) (value : α) (rest : Fields α) :
    get? k ((name, value) :: rest) = if k = name then some value else get? k rest := by
  by_cases h : k = name
  · simp [get?, h]
  · simp [get?, List.lookup_cons, h, beq_eq_false_iff_ne.2 h]

def Sorted (fields : Fields α) : Prop := fields.Pairwise (·.1 < ·.1)

instance (fields : Fields α) : Decidable fields.Sorted :=
  inferInstanceAs (Decidable (fields.Pairwise (·.1 < ·.1)))

@[simp] theorem sorted_nil : Sorted ([] : Fields α) := List.Pairwise.nil

theorem sorted_cons {fields : Fields α} {field : String × α} :
    Sorted (field :: fields) ↔ (∀ other ∈ fields, field.1 < other.1) ∧ Sorted fields :=
  List.pairwise_cons

theorem eq_or_mem_of_mem_insert {name : String} {value : α} {fields : Fields α}
    {field : String × α} (h : field ∈ insert name value fields) :
    field = (name, value) ∨ field ∈ fields := by
  fun_induction insert name value fields with
  | case1 => simpa using h
  | case2 => simpa using h
  | case3 v rest => exact (List.mem_cons.1 h).imp id (List.mem_cons_of_mem _)
  | case4 n v rest _ _ ih =>
    rcases List.mem_cons.1 h with rfl | hrest
    · exact .inr List.mem_cons_self
    · exact (ih hrest).imp id (List.mem_cons_of_mem _)

theorem sorted_insert {name : String} {value : α} {fields : Fields α} (h : Sorted fields) :
    Sorted (insert name value fields) := by
  fun_induction insert name value fields with
  | case1 => simp [sorted_cons]
  | case2 n v rest hlt =>
    refine sorted_cons.2 ⟨fun other hother => ?_, h⟩
    rcases List.mem_cons.1 hother with rfl | hrest
    · exact hlt
    · exact String.lt_trans hlt ((sorted_cons.1 h).1 other hrest)
  | case3 v rest =>
    obtain ⟨hfirst, hrest⟩ := sorted_cons.1 h
    exact sorted_cons.2 ⟨hfirst, hrest⟩
  | case4 n v rest hnlt hne ih =>
    obtain ⟨hfirst, hrest⟩ := sorted_cons.1 h
    refine sorted_cons.2 ⟨fun other hother => ?_, ih hrest⟩
    rcases eq_or_mem_of_mem_insert hother with rfl | hold
    · exact Decidable.byContradiction fun hngt =>
        hne (String.le_antisymm (String.not_lt.1 hngt) (String.not_lt.1 hnlt))
    · exact hfirst other hold

theorem sorted_filter {fields : Fields α} (keep : String × α → Bool) (h : Sorted fields) :
    Sorted (fields.filter keep) := List.Pairwise.filter keep h

theorem get?_insert (k name : String) (value : α) (fields : Fields α) :
    get? k (insert name value fields) = if k = name then some value else get? k fields := by
  fun_induction insert name value fields with
  | case1 => simp
  | case2 => simp
  | case3 v rest => by_cases hk : k = name <;> simp [hk]
  | case4 n v rest _ hne ih =>
    by_cases hk : k = n
    · simp [hk, Ne.symm hne]
    · simp [hk, ih]

theorem get?_erase (k name : String) (fields : Fields α) :
    get? k (erase name fields) = if k = name then none else get? k fields := by
  induction fields with
  | nil => simp [erase]
  | cons field rest ih =>
    obtain ⟨n, v⟩ := field
    unfold erase at ih ⊢
    by_cases hn : n = name
    · by_cases hk : k = name <;> simp_all
    · by_cases hk : k = n <;> simp_all

end Fields

@[ext]
structure SortedFields (α : Type) where
  toFields : Fields α
  sorted : toFields.Sorted
  deriving DecidableEq, Repr

namespace SortedFields

variable {α : Type}

def empty : SortedFields α := ⟨[], Fields.sorted_nil⟩

def insert (name : String) (value : α) (fields : SortedFields α) : SortedFields α :=
  ⟨fields.toFields.insert name value, Fields.sorted_insert fields.sorted⟩

def erase (name : String) (fields : SortedFields α) : SortedFields α :=
  ⟨fields.toFields.erase name, Fields.sorted_filter _ fields.sorted⟩

def get? (name : String) (fields : SortedFields α) : Option α := fields.toFields.get? name

@[simp] theorem toFields_empty : (empty : SortedFields α).toFields = [] := rfl

@[simp] theorem toFields_insert (name : String) (value : α) (fields : SortedFields α) :
    (fields.insert name value).toFields = fields.toFields.insert name value := rfl

@[simp] theorem toFields_erase (name : String) (fields : SortedFields α) :
    (fields.erase name).toFields = fields.toFields.erase name := rfl

@[simp] theorem get?_empty (k : String) : get? k (empty : SortedFields α) = none := rfl

theorem get?_insert (k name : String) (value : α) (fields : SortedFields α) :
    get? k (fields.insert name value) = if k = name then some value else get? k fields :=
  Fields.get?_insert k name value fields.toFields

theorem get?_erase (k name : String) (fields : SortedFields α) :
    get? k (fields.erase name) = if k = name then none else get? k fields :=
  Fields.get?_erase k name fields.toFields

end SortedFields

end ListenQuery

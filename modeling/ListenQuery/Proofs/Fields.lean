import ListenQuery.Fields
import Mathlib.Data.String.Basic

/-!
# Fields in the order of their names

Fields that are made by insertion stand in the order of their names, each name once, and a name
behind all others is added at the end. Such fields are known by their values alone, name by name.
-/

namespace ListenQuery

namespace Fields

variable {α : Type} {fields : Fields α} {name : String} {value : α}

theorem insert_of_forall_lt (h : ∀ field ∈ fields, field.1 < name) :
    insert name value fields = fields ++ [(name, value)] := by
  induction fields with
  | nil => rfl
  | cons field rest ih =>
    obtain ⟨hfirst, hrest⟩ := List.forall_mem_cons.1 h
    have hnlt : ¬ name < field.1 := lt_asymm hfirst
    have hne : name ≠ field.1 := hfirst.ne'
    simp [insert, hnlt, hne, ih hrest]

theorem forall_mem_insert {P : String × α → Prop} (h : ∀ field ∈ fields, P field)
    (hnew : P (name, value)) : ∀ field ∈ insert name value fields, P field := by
  intro field hfield
  rcases eq_or_mem_of_mem_insert hfield with rfl | hold
  · exact hnew
  · exact h field hold

theorem insert_insert_self (first second : α) :
    insert name second (insert name first fields) = insert name second fields := by
  fun_induction insert name first fields with
  | case1 => simp [insert]
  | case2 n v rest hlt => simp [insert, hlt]
  | case3 v rest => simp [insert]
  | case4 n v rest hnlt hne ih => simp [insert, hnlt, hne, ih]

theorem erase_erase_self : erase name (erase name fields) = erase name fields := by
  simp [erase]

theorem filter_of_mem (h : Sorted fields) (hmem : (name, value) ∈ fields) :
    fields.filter (·.1 = name) = [(name, value)] := by
  induction fields with
  | nil => cases hmem
  | cons field rest ih =>
    obtain ⟨hfirst, hrest⟩ := sorted_cons.1 h
    rcases List.mem_cons.1 hmem with rfl | hmem
    · have hnone : rest.filter (·.1 = name) = [] := by
        simpa using fun n v hother heq => (hfirst (n, v) hother).ne' heq
      simp [hnone]
    · have hne : field.1 ≠ name := (hfirst _ hmem).ne
      rw [List.filter_cons_of_neg (by simpa using hne), ih hrest hmem]

theorem get?_eq_none_iff : get? name fields = none ↔ ∀ field ∈ fields, field.1 ≠ name := by
  simp [get?, List.lookup_eq_none_iff, ne_comm]

theorem get?_eq_some_iff (h : Sorted fields) :
    get? name fields = some value ↔ (name, value) ∈ fields := by
  induction fields with
  | nil => simp
  | cons field rest ih =>
    obtain ⟨n, v⟩ := field
    obtain ⟨hfirst, hrest⟩ := sorted_cons.1 h
    by_cases hname : name = n
    · subst hname
      have hnone : (name, value) ∉ rest := fun hmem => (hfirst _ hmem).ne rfl
      simp [hnone, eq_comm]
    · simp [hname, ih hrest]

theorem get?_append (more : Fields α) :
    get? name (fields ++ more) = (get? name fields).or (get? name more) := List.lookup_append

theorem get?_map {β : Type} (f : String → α → β) :
    get? name (fields.map fun field => (field.1, f field.1 field.2)) =
      (get? name fields).map (f name) := by
  induction fields with
  | nil => rfl
  | cons field rest ih =>
    obtain ⟨n, v⟩ := field
    by_cases hname : name = n <;> simp [hname, ih]

theorem sorted_of_names {names : List String} (hnames : fields.map Prod.fst = names)
    (h : names.Pairwise (· < ·)) : Sorted fields := by
  rw [← hnames] at h
  exact List.pairwise_map.1 h

theorem sorted_map {β : Type} {f : String → α → β} (h : Sorted fields) :
    Sorted (fields.map fun field => (field.1, f field.1 field.2)) := List.pairwise_map.2 h

theorem get?_filter (keep : String → α → Bool) (h : Sorted fields) :
    get? name (fields.filter fun field => keep field.1 field.2) =
      (get? name fields).filter (keep name) := by
  induction fields with
  | nil => rfl
  | cons field rest ih =>
    obtain ⟨n, v⟩ := field
    obtain ⟨hfirst, hrest⟩ := sorted_cons.1 h
    by_cases hname : name = n
    · subst hname
      have hnone : get? name rest = none :=
        get?_eq_none_iff.2 fun other hother => (hfirst other hother).ne'
      by_cases hkeep : keep name v <;> simp [Option.filter, hkeep, ih hrest, hnone]
    · by_cases hkeep : keep n v <;> simp [hkeep, ih hrest, hname]

theorem get?_filter_of_keep {keep : String → α → Bool} (hkeep : ∀ value, keep name value = true) :
    get? name (fields.filter fun field => keep field.1 field.2) = get? name fields := by
  induction fields with
  | nil => rfl
  | cons field rest ih =>
    obtain ⟨n, v⟩ := field
    by_cases hname : name = n
    · subst hname
      simp [hkeep]
    · by_cases hv : keep n v <;> simp [hv, ih, hname]

theorem le_of_get?_cons {field : String × α} (h : Sorted (field :: fields))
    (hget : get? name (field :: fields) ≠ none) : field.1 ≤ name := by
  rw [Ne, get?_eq_none_iff] at hget
  simp only [not_forall, not_not] at hget
  obtain ⟨other, hother, rfl⟩ := hget
  rcases List.mem_cons.1 hother with rfl | hother
  · exact le_rfl
  · exact ((sorted_cons.1 h).1 other hother).le

theorem ext_get? {more : Fields α} (h : Sorted fields) (hmore : Sorted more)
    (heq : ∀ name, get? name fields = get? name more) : fields = more := by
  induction fields generalizing more with
  | nil =>
    cases more with
    | nil => rfl
    | cons field rest =>
      obtain ⟨n, v⟩ := field
      simpa using heq n
  | cons field rest ih =>
    obtain ⟨n, v⟩ := field
    cases more with
    | nil => simpa using heq n
    | cons field' rest' =>
      obtain ⟨n', v'⟩ := field'
      obtain ⟨hfirst, hrest⟩ := sorted_cons.1 h
      obtain ⟨hfirst', hrest'⟩ := sorted_cons.1 hmore
      have hle : n ≤ n' := le_of_get?_cons h (by rw [heq]; simp)
      have hge : n' ≤ n := le_of_get?_cons hmore (by rw [← heq]; simp)
      obtain rfl := le_antisymm hle hge
      obtain rfl : v = v' := by simpa using heq n
      rw [ih hrest hrest' fun name => ?_]
      by_cases hname : name = n
      · subst hname
        rw [get?_eq_none_iff.2 fun other hother => (hfirst other hother).ne',
          get?_eq_none_iff.2 fun other hother => (hfirst' other hother).ne']
      · simpa [hname] using heq name

end Fields

/-! Members given in any order, each under a name of its own. -/

namespace SortedFields

variable {α : Type} {fields more : SortedFields α} {name : String}

theorem ext_get? (h : ∀ name, get? name fields = get? name more) : fields = more :=
  SortedFields.ext (Fields.ext_get? fields.sorted more.sorted h)

theorem get?_eq_some_iff {value : α} :
    get? name fields = some value ↔ (name, value) ∈ fields.toFields :=
  Fields.get?_eq_some_iff fields.sorted

def ofList (members : List (String × α)) : SortedFields α :=
  members.foldl (fun fields member => fields.insert member.1 member.2) empty

theorem get?_foldl_insert {members : List (String × α)} (h : (members.map (·.1)).Nodup) :
    get? name (members.foldl (fun fields member => fields.insert member.1 member.2) fields) =
      (Fields.get? name members).or (get? name fields) := by
  induction members generalizing fields with
  | nil => rfl
  | cons member members ih =>
    obtain ⟨n, v⟩ := member
    obtain ⟨hn, hmembers⟩ := List.nodup_cons.1 h
    rw [List.foldl_cons, ih hmembers, get?_insert]
    by_cases hname : name = n
    · subst hname
      have hnone : Fields.get? name members = none :=
        Fields.get?_eq_none_iff.2 fun other hother heq => hn (List.mem_map.2 ⟨other, hother, heq⟩)
      simp [hnone]
    · simp [hname]

theorem get?_ofList {members : List (String × α)} (h : (members.map (·.1)).Nodup) :
    get? name (ofList members) = Fields.get? name members := by
  rw [ofList, get?_foldl_insert h, get?_empty, Option.or_none]

end SortedFields

end ListenQuery

import ListenQuery.Proofs.Filter.Build
import ListenQuery.Proofs.Text.Utf8Order

/-!
# Leaves of lists

The literals of a list and the items of a list value are made of the same leaves, each in its place.
A list source has entries if and only if it is an object of arrays that have no other leaves than
strings, numbers and booleans. Else the smallest key of another member is the one that is named.
-/

namespace ListenQuery

open Number

/-- A value that stands in a list or in a list within it, at any depth. -/
inductive Json.Listed (json : Json) : List Json → Prop
  | item {items : List Json} (h : json ∈ items) : Listed json items
  | nested {items inner : List Json} (hinner : .array inner ∈ items) (h : Listed json inner) :
    Listed json items

namespace Json

/-- What is no array in a value and in the arrays within it, from left to right. -/
def leaves : Json → List Json
  | .array items => items.flatMap leaves
  | json => [json]

variable {json : Json} {items : List Json}

theorem leaves_array (items : List Json) : (Json.array items).leaves = items.flatMap leaves := by
  rw [leaves]

theorem not_array_of_mem_leaves {root : Json} (h : json ∈ root.leaves) (inner : List Json) :
    json ≠ .array inner := by
  fun_induction leaves root with
  | case1 items ih =>
    obtain ⟨item, hitem, hleaf⟩ := List.mem_flatMap.1 h
    exact ih item hitem hleaf
  | case2 root hscalar =>
    obtain rfl := List.mem_singleton.1 h
    exact hscalar inner

theorem listed_of_mem_leaves {root : Json} (h : json ∈ root.leaves) (hroot : root ∈ items) :
    json.Listed items := by
  fun_induction leaves root generalizing items with
  | case1 inner ih =>
    obtain ⟨item, hitem, hleaf⟩ := List.mem_flatMap.1 h
    exact .nested hroot (ih item hitem hleaf hitem)
  | case2 root hscalar =>
    obtain rfl := List.mem_singleton.1 h
    exact .item hroot

theorem mem_leaves_array_iff :
    json ∈ (Json.array items).leaves ↔ json.Listed items ∧ ∀ inner, json ≠ .array inner := by
  rw [leaves_array]
  constructor
  · intro h
    obtain ⟨item, hitem, hleaf⟩ := List.mem_flatMap.1 h
    exact ⟨listed_of_mem_leaves hleaf hitem, not_array_of_mem_leaves hleaf⟩
  · rintro ⟨hlisted, hscalar⟩
    rw [List.mem_flatMap]
    induction hlisted with
    | item hmem =>
      refine ⟨json, hmem, ?_⟩
      rw [leaves.eq_2 _ hscalar, List.mem_singleton]
    | nested hinner _ ih =>
      refine ⟨_, hinner, ?_⟩
      rw [leaves_array]
      exact List.mem_flatMap.2 ih

end Json

namespace Value

theorem ofLeaves_eq_flatMap (items : List Json) :
    ofLeaves items = items.flatMap fun item => ofLeaves [item] := by
  induction items with
  | nil => rfl
  | cons item rest ih =>
    rw [List.flatMap_cons, ← ih]
    cases item <;> simp [ofLeaves]

theorem ofLeaves_singleton (json : Json) : ofLeaves [json] = json.leaves.map ofJson := by
  fun_induction Json.leaves json with
  | case1 items ih =>
    rw [ofLeaves, ofLeaves, List.append_nil, ofLeaves_eq_flatMap, List.map_flatMap]
    exact List.flatMap_congr ih
  | case2 json hscalar => exact ofLeaves.eq_3 json [] hscalar

theorem ofLeaves_eq (items : List Json) :
    ofLeaves items = (Json.array items).leaves.map ofJson := by
  rw [← ofLeaves_singleton, ofLeaves, ofLeaves, List.append_nil]

theorem isList_ofJson {json : Json} (h : ∀ items, json ≠ .array items) :
    (ofJson json).isList = false := by
  cases json with
  | array items => exact absurd rfl (h items)
  | _ => rfl

end Value

namespace ListSource

inductive Gives : Json → String → Prop
  | string (s : String) : Gives (.string s) s
  | number (n : Numeral) : Gives (.number n) (String.ofList n.text)
  | bool (b : Bool) : Gives (.bool b) (boolText b)

/-- An array in which nothing stands, at any depth, but arrays, strings, numbers and booleans. -/
def HoldsLiterals (json : Json) : Prop :=
  ∃ items, json = .array items ∧ ∀ leaf : Json, leaf.Listed items →
    (∃ inner, leaf = .array inner) ∨ ∃ text, Gives leaf text

variable {items : List Json} {texts : List String} {json : Json} {text : String}

theorem literals_cons (item : Json) (rest : List Json) :
    literals (item :: rest) = (literals [item]).bind fun xs => (literals rest).map (xs ++ ·) := by
  cases item with
  | array inner => cases hinner : literals inner <;> cases hrest : literals rest <;>
      simp [literals, hinner, hrest]
  | _ => simp [literals]

theorem literals_array (inner : List Json) : literals [.array inner] = literals inner := by
  cases h : literals inner <;> simp [literals, h]

theorem Gives.ne_array (h : Gives json text) (items : List Json) : json ≠ .array items := by
  rintro rfl
  cases h

theorem Gives.unique {text' : String} (h : Gives json text) (h' : Gives json text') :
    text = text' := by
  cases h <;> cases h' <;> rfl

theorem Gives.literals_singleton (h : Gives json text) : literals [json] = some [text] := by
  cases h <;> simp [literals]

theorem literals_iff_of_items
    (h : ∀ item ∈ items, ∀ texts, literals [item] = some texts ↔
      List.Forall₂ Gives item.leaves texts) :
    literals items = some texts ↔ List.Forall₂ Gives (items.flatMap Json.leaves) texts := by
  induction items generalizing texts with
  | nil => simp [literals, eq_comm]
  | cons item rest ih =>
    obtain ⟨hitem, hrest⟩ := List.forall_mem_cons.1 h
    simp only [literals_cons item rest, Option.bind_eq_some_iff, Option.map_eq_some_iff, hitem,
      ih hrest, List.flatMap_cons, forall₂_append_left_iff]
    constructor
    · rintro ⟨xs, hxs, ys, hys, rfl⟩
      exact ⟨xs, ys, hxs, hys, rfl⟩
    · rintro ⟨xs, ys, hxs, hys, rfl⟩
      exact ⟨xs, hxs, ys, hys, rfl⟩

theorem exists_gives_of_literals (hscalar : ∀ items, json ≠ .array items)
    (h : literals [json] = some texts) : ∃ text, Gives json text ∧ texts = [text] := by
  cases json with
  | array items => exact absurd rfl (hscalar items)
  | string s => exact ⟨s, .string s, by simpa [literals, eq_comm] using h⟩
  | number n => exact ⟨_, .number n, by simpa [literals, eq_comm] using h⟩
  | bool b => exact ⟨_, .bool b, by simpa [literals, eq_comm] using h⟩
  | null => simp [literals] at h
  | object members => simp [literals] at h

theorem literals_singleton_iff :
    literals [json] = some texts ↔ List.Forall₂ Gives json.leaves texts := by
  fun_induction Json.leaves json generalizing texts with
  | case1 items ih =>
    rw [literals_array]
    exact literals_iff_of_items fun item hitem _ => ih item hitem
  | case2 json hscalar =>
    constructor
    · intro h
      obtain ⟨text, hgives, rfl⟩ := exists_gives_of_literals hscalar h
      exact .cons hgives .nil
    · rintro (_ | ⟨hgives, _ | _⟩)
      exact hgives.literals_singleton

theorem literals_eq_some_iff :
    literals items = some texts ↔ List.Forall₂ Gives (Json.array items).leaves texts := by
  rw [← literals_array, literals_singleton_iff]

section

variable {source key : String}

theorem entry_eq_ok_iff :
    entry source key json = .ok texts ↔
      (∃ items, json = .array items) ∧ List.Forall₂ Gives json.leaves texts := by
  cases json with
  | array items =>
    rw [← literals_eq_some_iff]
    cases h : literals items <;> simp [entry, h]
  | _ => simp [entry]

theorem eq_of_entry_eq_error {e : ExpressionError} (h : entry source key json = .error e) :
    e = .invalidListEntry source key := by
  unfold entry at h
  split at h
  · split at h
    · cases h
    · exact (Except.error.inj h).symm
  · exact (Except.error.inj h).symm

theorem exists_entry_iff (source key : String) :
    (∃ texts, entry source key json = .ok texts) ↔ HoldsLiterals json := by
  simp only [entry_eq_ok_iff, exists_and_left, exists_forall₂_iff]
  constructor
  · rintro ⟨⟨items, rfl⟩, hleaves⟩
    refine ⟨items, rfl, fun leaf hlisted => ?_⟩
    by_cases harray : ∃ inner, leaf = .array inner
    · exact .inl harray
    · exact .inr (hleaves leaf (Json.mem_leaves_array_iff.2 ⟨hlisted, not_exists.1 harray⟩))
  · rintro ⟨items, rfl, hlisted⟩
    refine ⟨⟨items, rfl⟩, fun leaf hleaf => ?_⟩
    obtain ⟨hleaf, hscalar⟩ := Json.mem_leaves_array_iff.1 hleaf
    exact (hlisted leaf hleaf).resolve_left (not_exists.2 hscalar)

theorem not_holdsLiterals_iff :
    ¬ HoldsLiterals json ↔ entry source key json = .error (.invalidListEntry source key) := by
  rw [← exists_entry_iff source key]
  cases h : entry source key json with
  | ok texts => simp
  | error e => simp [eq_of_entry_eq_error h]

end

section

variable [RealReading] {s : ListSource}

variable {members : Fields Json} {entries : Fields (List String)}

theorem entries_of_read_object (h : Json.read s.content = .ok (.object members)) :
    s.entries = members.mapM fun member =>
      (entry s.name member.1 member.2).map (member.1, ·) := by
  rw [entries, h]

theorem entries_eq_ok_iff (h : Json.read s.content = .ok (.object members)) :
    s.entries = .ok entries ↔
      List.Forall₂ (fun member entry => entry.1 = member.1 ∧
        (∃ items, member.2 = .array items) ∧ List.Forall₂ Gives member.2.leaves entry.2)
        members entries := by
  rw [entries_of_read_object h, mapM_eq_ok_iff]
  have hmember : ∀ (member : String × Json) (made : String × List String),
      (entry s.name member.1 member.2).map (member.1, ·) = .ok made ↔
        made.1 = member.1 ∧ (∃ items, member.2 = .array items) ∧
          List.Forall₂ Gives member.2.leaves made.2 := by
    rintro ⟨key, json⟩ ⟨key', texts⟩
    simp only [map_eq_ok_iff, entry_eq_ok_iff, Prod.mk.injEq]
    constructor
    · rintro ⟨_, hentry, rfl, rfl⟩
      exact ⟨rfl, hentry⟩
    · rintro ⟨rfl, hentry⟩
      exact ⟨texts, hentry, rfl, rfl⟩
  simp only [hmember]

theorem exists_entries_iff (h : Json.read s.content = .ok (.object members)) :
    (∃ entries, s.entries = .ok entries) ↔ ∀ member ∈ members, HoldsLiterals member.2 := by
  simp only [entries_of_read_object h, mapM_eq_ok_iff, exists_forall₂_iff, map_eq_ok_iff]
  refine forall₂_congr fun member _ => ?_
  rw [← exists_entry_iff s.name member.1]
  constructor
  · rintro ⟨_, texts, hentry, -⟩
    exact ⟨texts, hentry⟩
  · rintro ⟨texts, hentry⟩
    exact ⟨_, texts, hentry, rfl⟩

theorem exists_smallest_of_entries_eq_error {e : ExpressionError}
    (h : Json.read s.content = .ok (.object members)) (herror : s.entries = .error e) :
    ∃ key json, (key, json) ∈ members ∧ ¬ HoldsLiterals json ∧
      (∀ other ∈ members, ¬ HoldsLiterals other.2 → utf8Of key.toList ≤ utf8Of other.1.toList) ∧
      e = .invalidListEntry s.name key := by
  rw [entries_of_read_object h, mapM_eq_error_iff] at herror
  obtain ⟨before, ⟨key, json⟩, after, rfl, hbefore, hentry⟩ := herror
  obtain ⟨-, hsorted, -⟩ := List.pairwise_append.1 (Json.sorted_of_read h)
  obtain ⟨hafter, -⟩ := Fields.sorted_cons.1 hsorted
  have hinvalid := map_eq_error_iff.1 hentry
  obtain rfl := eq_of_entry_eq_error hinvalid
  refine ⟨key, json, by simp, not_holdsLiterals_iff.2 hinvalid, ?_, rfl⟩
  intro other hother hnot
  rw [← List.not_lt, utf8Of_lt_iff]
  rcases List.mem_append.1 hother with hother | hother
  · obtain ⟨_, hmade⟩ := hbefore other hother
    obtain ⟨texts, hok, -⟩ := map_eq_ok_iff.1 hmade
    exact absurd ((exists_entry_iff _ _).1 ⟨texts, hok⟩) hnot
  · rcases List.mem_cons.1 hother with rfl | hother
    · exact lt_irrefl _
    · exact lt_asymm (hafter other hother)

theorem entries_of_ne_object {json : Json} (h : Json.read s.content = .ok json)
    (hobject : ∀ members, json ≠ .object members) :
    s.entries = .error (.malformedList s.name "expected an object at the top level") := by
  cases json with
  | object members => exact absurd rfl (hobject members)
  | _ => rw [entries, h]

/-- A text that is read as JSON gives entries if and only if it is an object of arrays of literals,
and then one for each member, in the order of the bytes of the keys, with the text of each leaf from
left to right. Else it fails because it is no object, or because of the smallest key of a member
that is no array of literals. An array is a list value of the same leaves, none of them a list. -/
theorem entries_of_leaves :
    (∀ (s : ListSource) (json : Json), Json.read s.content = .ok json →
      ((∃ entries, s.entries = .ok entries) ↔
        ∃ members, json = .object members ∧ ∀ member ∈ members, HoldsLiterals member.2) ∧
      (∀ entries, s.entries = .ok entries → ∃ members, json = .object members ∧
        entries.Pairwise (fun entry other => utf8Of entry.1.toList < utf8Of other.1.toList) ∧
        List.Forall₂ (fun member entry => entry.1 = member.1 ∧
            List.Forall₂ Gives member.2.leaves entry.2 ∧
            entry.2.length = member.2.leaves.length)
          members entries) ∧
      ∀ e, s.entries = .error e →
        (∀ members, json ≠ .object members) ∧
            e = .malformedList s.name "expected an object at the top level" ∨
          ∃ members key value, json = .object members ∧ (key, value) ∈ members ∧
            ¬ HoldsLiterals value ∧
            (∀ other ∈ members, ¬ HoldsLiterals other.2 →
              utf8Of key.toList ≤ utf8Of other.1.toList) ∧
            e = .invalidListEntry s.name key) ∧
    ∀ items, ∃ values, Value.ofJson (.array items) = .list values ∧
      values = (Json.array items).leaves.map .ofJson ∧ ∀ value ∈ values, value.isList = false := by
  refine ⟨fun s json hread => ?_, fun items => ?_⟩
  · by_cases hobject : ∃ members, json = .object members
    · obtain ⟨members, rfl⟩ := hobject
      refine ⟨?_, fun entries hentries => ⟨members, rfl, ?_, ?_⟩, fun e herror => .inr ?_⟩
      · simp only [exists_entries_iff hread, Json.object.injEq, exists_eq_left']
      · exact (sorted_entries hentries).imp utf8Of_lt_iff.2
      · refine ((entries_eq_ok_iff hread).1 hentries).imp fun member entry h => ?_
        obtain ⟨hkey, -, htexts⟩ := h
        exact ⟨hkey, htexts, htexts.length_eq.symm⟩
      · obtain ⟨key, value, hsmallest⟩ := exists_smallest_of_entries_eq_error hread herror
        exact ⟨members, key, value, rfl, hsmallest⟩
    · have hmalformed := entries_of_ne_object hread (not_exists.1 hobject)
      rw [hmalformed]
      refine ⟨⟨nofun, ?_⟩, nofun, fun e herror => .inl ?_⟩
      · rintro ⟨members, rfl, -⟩
        exact absurd ⟨members, rfl⟩ hobject
      · exact ⟨not_exists.1 hobject, (Except.error.inj herror).symm⟩
  · refine ⟨_, rfl, Value.ofLeaves_eq items, fun value hvalue => ?_⟩
    rw [Value.ofLeaves_eq] at hvalue
    obtain ⟨leaf, hleaf, rfl⟩ := List.mem_map.1 hvalue
    exact Value.isList_ofJson (Json.not_array_of_mem_leaves hleaf)

end

theorem read_leaves :
    Json.read "\x7b\"c\":null,\"b\":[true,[\x7b\x7d]],\"a\":[[],[\"x\",[false]]]\x7d" =
      .ok (.object [("a", .array [.array [], .array [.string "x", .array [.bool false]]]),
        ("b", .array [.bool true, .array [.object []]]), ("c", .null)]) := by
  delta Json.read Cursor.value
  rfl

theorem entries_of_leaves_smallest :
    let s : ListSource :=
      ⟨"x.json", "\x7b\"c\":null,\"b\":[true,[\x7b\x7d]],\"a\":[[],[\"x\",[false]]]\x7d"⟩
    let items : List Json := [.array [], .array [.string "x", .array [.bool false]]]
    Json.read s.content = .ok (.object [("a", .array items),
        ("b", .array [.bool true, .array [.object []]]), ("c", .null)]) ∧
      s.entries = .error (.invalidListEntry "x.json" "b") ∧
      Value.ofJson (.array items) = .list [.text "x", .bool false] := by
  intro s items
  have ha : HoldsLiterals (.array items) := by
    have hentry : entry "" "" (.array items) = .ok ["x", "false"] := by
      simp [entry, items, literals, boolText]
    exact (exists_entry_iff _ _).1 ⟨_, hentry⟩
  have hb : ¬ HoldsLiterals (.array [.bool true, .array [.object []]]) := by
    have hentry : entry "" "" (.array [.bool true, .array [.object []]]) =
        .error (.invalidListEntry "" "") := by
      simp [entry, literals]
    exact not_holdsLiterals_iff.2 hentry
  obtain ⟨hiff, -, herror⟩ := entries_of_leaves.1 s _ read_leaves
  obtain ⟨values, hvalues, rfl, -⟩ := entries_of_leaves.2 items
  refine ⟨read_leaves, ?_, hvalues.trans ?_⟩
  · cases hentries : s.entries with
    | ok entries =>
      obtain ⟨members, hmembers, hall⟩ := hiff.1 ⟨entries, hentries⟩
      obtain rfl := Json.object.inj hmembers
      exact absurd (hall _ (List.mem_cons_of_mem _ List.mem_cons_self)) hb
    | error e =>
      obtain ⟨hobject, -⟩ | ⟨members, key, value, hmembers, hmem, hnot, hsmallest, rfl⟩ :=
        herror e hentries
      · exact absurd rfl (hobject _)
      · obtain rfl := Json.object.inj hmembers
        have hle := hsmallest _ (List.mem_cons_of_mem _ List.mem_cons_self) hb
        simp only [List.mem_cons, Prod.mk.injEq, List.not_mem_nil, or_false] at hmem
        obtain ⟨rfl, rfl⟩ | ⟨rfl, rfl⟩ | ⟨rfl, rfl⟩ := hmem
        · exact absurd ha hnot
        · rfl
        · exact absurd hle (by decide +kernel)
  · simp [items, Json.leaves, Value.ofJson]

end ListSource

end ListenQuery

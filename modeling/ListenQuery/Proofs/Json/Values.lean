import ListenQuery.Proofs.Fields
import ListenQuery.Proofs.Json.Loops
import ListenQuery.Proofs.Json.Numerals

/-!
# Values read back

A value that reading gives is nested at most as deep as reading allows, with the members of every
object in the order of their names. Every such value is read back from its compact form and from its
indented one, and so values that are written the same are the same.
-/

namespace ListenQuery

open Number

/-- A value that reading can give: brackets are nested at most `depth` deep, and the members of an
object stand in the order of their names. -/
inductive Json.Readable : Nat → Json → Prop
  | null (depth : Nat) : Readable depth .null
  | bool (depth : Nat) (b : Bool) : Readable depth (.bool b)
  | number (depth : Nat) (n : Numeral) : Readable depth (.number n)
  | string (depth : Nat) (s : String) : Readable depth (.string s)
  | array {depth : Nat} {items : List Json} (h : ∀ item ∈ items, Readable depth item) :
    Readable (depth + 1) (.array items)
  | object {depth : Nat} {members : Fields Json} (hsorted : members.Sorted)
    (h : ∀ member ∈ members, Readable depth member.2) : Readable (depth + 1) (.object members)

namespace SortedFields

def Readable (depth : Nat) (fields : SortedFields Json) : Prop :=
  ∀ field ∈ fields.toFields, Json.Readable depth field.2

theorem readable_empty (depth : Nat) : Readable depth empty := nofun

theorem Readable.insert {depth : Nat} {fields : SortedFields Json} {name : String} {json : Json}
    (h : fields.Readable depth) (hjson : json.Readable depth) :
    (fields.insert name json).Readable depth := Fields.forall_mem_insert h hjson

end SortedFields

namespace Cursor

theorem objectMember_eq_ok {α : Type} {read : Reader α} {fields fields' : SortedFields α}
    {name : String} {cur cur' : Cursor}
    (h : objectMember read fields name cur = .ok (fields', cur')) :
    ∃ start x, cur.colon = .ok start ∧ read start = .ok (x, cur') ∧
      fields' = fields.insert name x := by
  obtain ⟨start, hcolon, hmore⟩ := bind_eq_ok_iff.1 h
  obtain ⟨⟨x, after⟩, hx, heq⟩ := bind_eq_ok_iff.1 hmore
  obtain ⟨rfl, rfl⟩ := Prod.mk.inj (Except.ok.inj heq)
  exact ⟨start, x, hcolon, hx, rfl⟩

theorem readable_of_objectMember {depth : Nat} {read : Reader Json}
    (hread : ∀ {cur json cur'}, read cur = .ok (json, cur') → Json.Readable depth json)
    {fields fields' : SortedFields Json} {name : String} {cur cur' : Cursor}
    (hfields : fields.Readable depth)
    (h : objectMember read fields name cur = .ok (fields', cur')) : fields'.Readable depth := by
  obtain ⟨start, json, -, hjson, rfl⟩ := objectMember_eq_ok h
  exact hfields.insert (hread hjson)

section

variable [RealReading]

/-- A value without brackets is the same at every depth, and one with brackets is an array or
object of values that are read one level deeper. -/
theorem value_eq_ok {depth : Nat} {cur cur' : Cursor} {json : Json}
    (h : value depth cur = .ok (json, cur')) :
    (∀ depth, Json.Readable depth json) ∨
      ∃ inner start, depth = inner + 1 ∧
        ((∃ xs, items (value inner) start = .ok (xs, cur') ∧ json = .array xs) ∨
          ∃ fields, members (objectMember (value inner)) .empty start = .ok (fields, cur') ∧
            json = .object fields.toFields) := by
  unfold value at h
  cases depth
  all_goals
    dsimp only at h
    split at h
    · cases h
    split_ifs at h
  all_goals simp only [map_eq_ok_iff, Prod.mk.injEq, Prod.exists, faultAhead, reduceCtorEq] at h
  -- Words first, then numbers and strings.
  all_goals try
    obtain ⟨_, -, rfl, -⟩ := h
    exact .inl fun depth => by constructor
  all_goals try
    obtain ⟨_, _, -, rfl, -⟩ := h
    exact .inl fun depth => by constructor
  · obtain ⟨xs, after, hitems, rfl, rfl⟩ := h
    exact .inr ⟨_, _, rfl, .inl ⟨xs, hitems, rfl⟩⟩
  · obtain ⟨fields, after, hmembers, rfl, rfl⟩ := h
    exact .inr ⟨_, _, rfl, .inr ⟨fields, hmembers, rfl⟩⟩

theorem readable_of_value {depth : Nat} {cur cur' : Cursor} {json : Json}
    (h : value depth cur = .ok (json, cur')) : Json.Readable depth json := by
  induction depth generalizing cur json cur' with
  | zero =>
    obtain hscalar | ⟨inner, start, ⟨⟩, -⟩ := value_eq_ok h
    exact hscalar 0
  | succ depth ih =>
    obtain hscalar | ⟨inner, start, hdepth, hbracket⟩ := value_eq_ok h
    · exact hscalar _
    obtain rfl := Nat.succ.inj hdepth
    obtain ⟨xs, hitems, rfl⟩ | ⟨fields, hmembers, rfl⟩ := hbracket
    · exact .array (forall_of_itemsWithin ih hitems)
    · have hfields : fields.Readable depth :=
        invariant_of_membersWithin (readable_of_objectMember ih)
          (SortedFields.readable_empty depth) hmembers
      exact .object fields.sorted hfields

end

theorem exists_signed_cons (negative : Bool) {whole : List Char} (hwhole : IsWhole whole)
    (tail : List Char) :
    ∃ c more, signed negative (whole ++ tail) = c :: more ∧ (c = '-' ∨ isDigit c = true) := by
  obtain ⟨first, more, rfl⟩ := List.exists_cons_of_ne_nil hwhole.ne_nil
  cases negative with
  | false => exact ⟨first, more ++ tail, rfl, .inr (hwhole.digits first (by simp))⟩
  | true => exact ⟨'-', first :: more ++ tail, rfl, .inl rfl⟩

theorem exists_intText_cons (n : Int) :
    ∃ c more, intText n = c :: more ∧ (c = '-' ∨ isDigit c = true) := by
  obtain ⟨c, more, htext, hc⟩ :=
    exists_signed_cons (decide (n < 0)) (isWhole_natText n.natAbs) []
  refine ⟨c, more, ?_, hc⟩
  rw [← htext]
  by_cases hneg : n < 0 <;> simp [intText, signed, hneg]

theorem exists_numeral_text_cons (n : Numeral) :
    ∃ c more, n.text = c :: more ∧ (c = '-' ∨ isDigit c = true) := by
  cases n with
  | integer n hn => exact exists_intText_cons n
  | real x hx =>
    obtain ⟨text, whole, fraction, e, htext, hwhole, -, hspells, -⟩ := exists_spells_dataText hx
    rw [Numeral.text, htext]
    cases hspells with
    | fixed => exact exists_signed_cons x.negative hwhole _
    | power => exact exists_signed_cons x.negative hwhole _
    | scientific => exact exists_signed_cons x.negative hwhole _

theorem ne_of_opensNumeral {c d : Char} (hc : c = '-' ∨ isDigit c = true)
    (hd : (d = '-' || isDigit d) = false) : c ≠ d := by
  rintro rfl
  simp_all

theorem isSpace_of_opensNumeral {c : Char} (h : c = '-' ∨ isDigit c = true) :
    isSpace c = false := by
  by_contra hspace
  simp only [isSpace, Bool.not_eq_false, Bool.or_eq_true, decide_eq_true_eq] at hspace
  rcases hspace with ((rfl | rfl) | rfl) | rfl <;> exact absurd h (by decide)

theorem opensValue_compact (json : Json) : OpensValue json.compact := by
  cases json with
  | null => exact ⟨'n', _, rfl, rfl, by decide⟩
  | bool b => cases b <;> exact ⟨_, _, rfl, rfl, by decide⟩
  | number n =>
    obtain ⟨c, more, htext, hc⟩ := exists_numeral_text_cons n
    exact ⟨c, more, htext, isSpace_of_opensNumeral hc, ne_of_opensNumeral hc rfl⟩
  | string s => exact ⟨'"', _, rfl, rfl, by decide⟩
  | array items => exact ⟨'[', _, rfl, rfl, by decide⟩
  | object members => exact ⟨'{', _, rfl, rfl, by decide⟩

theorem opensValue_indented (depth : Nat) (json : Json) : OpensValue (json.indented depth) := by
  cases json with
  | array items =>
    rw [Layout.indented_array]
    exact ⟨'[', _, rfl, rfl, by decide⟩
  | object members =>
    rw [Layout.indented_object]
    exact ⟨'{', _, rfl, rfl, by decide⟩
  | null => exact opensValue_compact .null
  | bool b => exact opensValue_compact (.bool b)
  | number n => exact opensValue_compact (.number n)
  | string s => exact opensValue_compact (.string s)

theorem reads_objectMember {α : Type} {read : Reader α} {text : List Char} {x : α}
    (hread : Reads read text x) (fields : SortedFields α) (name : String) :
    Reads (objectMember read fields name) (':' :: text) (fields.insert name x) := by
  intro rest p hends
  obtain ⟨p', hvalue⟩ := hread rest (bump ':' p) hends
  have hcolon : isSpace ':' = false := rfl
  exact ⟨p', by simp [objectMember, colon, skipSpace_cons _ _ hcolon, hvalue]⟩

section

variable {σ : Type} {layout : Layout} {member : σ → String → Reader σ}

theorem leads_map_insert {α : Type} (json : α → Json) (put : SortedFields α → σ)
    (fields : SortedFields α) {added : Fields α} (hsorted : Fields.Sorted (fields.toFields ++ added))
    (hread : ∀ field ∈ added, ∀ fields, Reads (member (put fields) field.1)
      (layout.tail (json field.2)) (put (fields.insert field.1 field.2))) :
    Leads layout member (put fields) (added.map fun field => (field.1, json field.2))
      (put ⟨fields.toFields ++ added, hsorted⟩) := by
  induction added generalizing fields with
  | nil => simpa using Leads.nil (put fields)
  | cons field added ih =>
    obtain ⟨name, x⟩ := field
    obtain ⟨hx, hread⟩ := List.forall_mem_cons.1 hread
    have hlast : (fields.insert name x).toFields = fields.toFields ++ [(name, x)] := by
      refine Fields.insert_of_forall_lt fun before hbefore => ?_
      exact (List.pairwise_append.1 hsorted).2.2 before hbefore (name, x) List.mem_cons_self
    have hmore := ih (fields.insert name x) (by rw [hlast]; simpa using hsorted) hread
    simp only [hlast, List.append_assoc, List.singleton_append] at hmore
    exact .cons (hx fields) hmore

theorem leads_insert (put : SortedFields Json → σ) {members : SortedFields Json}
    (hread : ∀ added ∈ members.toFields, ∀ fields, Reads (member (put fields) added.1)
      (layout.tail added.2) (put (fields.insert added.1 added.2))) :
    Leads layout member (put .empty) members.toFields (put members) := by
  simpa using leads_map_insert id put .empty members.sorted hread

end

section

variable [RealReading]

section

variable {cur : Cursor} {c : Char} {rest : List Char}

theorem value_of_cons (depth : Nat) (hrest : cur.skipSpace.rest = c :: rest) :
    (c = 'n' → value depth cur = (cur.skipSpace.next.word ['u', 'l', 'l']).map (.null, ·)) ∧
    (c = 't' → value depth cur =
      (cur.skipSpace.next.word ['r', 'u', 'e']).map (.bool true, ·)) ∧
    (c = 'f' → value depth cur =
      (cur.skipSpace.next.word ['a', 'l', 's', 'e']).map (.bool false, ·)) ∧
    (c = '-' ∨ isDigit c = true → value depth cur =
      cur.skipSpace.numeral.map fun (n, cur) => (.number n, cur)) ∧
    (c = '"' → value depth cur =
      cur.skipSpace.next.string.map fun (s, cur) => (.string s, cur)) ∧
    (c = '[' → value (depth + 1) cur =
      (cur.skipSpace.next.items (value depth)).map fun (xs, cur) => (.array xs, cur)) ∧
    (c = '{' → value (depth + 1) cur =
      (cur.skipSpace.next.members (objectMember (value depth)) .empty).map
        fun (fields, cur) => (.object fields.toFields, cur)) := by
  have hquote : isDigit '"' = false := rfl
  have hbracket : isDigit '[' = false := rfl
  have hbrace : isDigit '{' = false := rfl
  unfold value
  refine ⟨?null, ?true, ?false, fun hc => ?number, ?string, ?array, ?object⟩
  case number =>
    have hword : c ≠ 'n' ∧ c ≠ 't' ∧ c ≠ 'f' :=
      ⟨ne_of_opensNumeral hc rfl, ne_of_opensNumeral hc rfl, ne_of_opensNumeral hc rfl⟩
    cases depth <;> simp [hrest, hword, hc]
  all_goals
    rintro rfl
    cases depth <;> simp [hrest, hquote, hbracket, hbrace]

theorem value_of_null (depth : Nat) (hrest : cur.skipSpace.rest = 'n' :: rest) :
    value depth cur = (cur.skipSpace.next.word ['u', 'l', 'l']).map (.null, ·) :=
  (value_of_cons depth hrest).1 rfl

theorem value_of_numeral (depth : Nat) (hrest : cur.skipSpace.rest = c :: rest)
    (hc : c = '-' ∨ isDigit c = true) :
    value depth cur = cur.skipSpace.numeral.map fun (n, cur) => (.number n, cur) :=
  (value_of_cons depth hrest).2.2.2.1 hc

theorem value_of_quote (depth : Nat) (hrest : cur.skipSpace.rest = '"' :: rest) :
    value depth cur = cur.skipSpace.next.string.map fun (s, cur) => (.string s, cur) :=
  (value_of_cons depth hrest).2.2.2.2.1 rfl

theorem value_of_brace (depth : Nat) (hrest : cur.skipSpace.rest = '{' :: rest) :
    value (depth + 1) cur = (cur.skipSpace.next.members (objectMember (value depth)) .empty).map
      fun (fields, cur) => (.object fields.toFields, cur) :=
  (value_of_cons depth hrest).2.2.2.2.2.2 rfl

end

theorem reads_null (depth : Nat) : Reads (value depth) Json.null.compact .null := by
  intro rest p _
  obtain ⟨p', hword⟩ := word_append ['u', 'l', 'l'] rest (bump 'n' p)
  have hstart := skipSpace_cons (c := 'n') (['u', 'l', 'l'] ++ rest) p rfl
  have hvalue := value_of_null depth (congrArg Cursor.rest hstart)
  rw [hstart, next, hword, map_ok] at hvalue
  exact ⟨p', hvalue⟩

theorem reads_bool (depth : Nat) (b : Bool) :
    Reads (value depth) (Json.bool b).compact (.bool b) := by
  intro rest p _
  cases b with
  | false =>
    obtain ⟨p', hword⟩ := word_append ['a', 'l', 's', 'e'] rest (bump 'f' p)
    have hstart := skipSpace_cons (c := 'f') (['a', 'l', 's', 'e'] ++ rest) p rfl
    obtain ⟨-, -, hfalse, -⟩ := value_of_cons depth (congrArg Cursor.rest hstart)
    have hvalue := hfalse rfl
    rw [hstart, next, hword, map_ok] at hvalue
    exact ⟨p', hvalue⟩
  | true =>
    obtain ⟨p', hword⟩ := word_append ['r', 'u', 'e'] rest (bump 't' p)
    have hstart := skipSpace_cons (c := 't') (['r', 'u', 'e'] ++ rest) p rfl
    obtain ⟨-, htrue, -⟩ := value_of_cons depth (congrArg Cursor.rest hstart)
    have hvalue := htrue rfl
    rw [hstart, next, hword, map_ok] at hvalue
    exact ⟨p', hvalue⟩

theorem reads_number (hnearest : RealReading.IsNearest) (depth : Nat) (n : Numeral) :
    Reads (value depth) (Json.number n).compact (.number n) := by
  intro rest p hends
  obtain ⟨p', hread⟩ := reads_numeral hnearest n rest p hends
  obtain ⟨c, more, htext, hc⟩ := exists_numeral_text_cons n
  rw [htext, List.cons_append] at hread
  have hstart := skipSpace_cons (more ++ rest) p (isSpace_of_opensNumeral hc)
  have hvalue := value_of_numeral depth (congrArg Cursor.rest hstart) hc
  rw [hstart, hread, map_ok] at hvalue
  refine ⟨p', ?_⟩
  rw [Json.compact, htext, List.cons_append, hvalue]

theorem reads_string (depth : Nat) (s : String) :
    Reads (value depth) (Json.string s).compact (.string s) := by
  intro rest p _
  obtain ⟨p', hread⟩ := string_quoted s rest (bump '"' p)
  have hstart := skipSpace_cons (c := '"') (s.toList.flatMap escapeChar ++ '"' :: rest) p rfl
  have hvalue := value_of_quote depth (congrArg Cursor.rest hstart)
  rw [hstart, next, hread, map_ok] at hvalue
  refine ⟨p', ?_⟩
  simpa [Json.compact, quoted] using hvalue

theorem skipsSpace_value (depth : Nat) : SkipsSpace (value depth) := by
  intro cur
  unfold value
  cases depth <;> simp only [skipSpace_skipSpace]

section

variable {layout : Layout} {depth : Nat}

theorem reads_items {xs : List Json} (hopens : ∀ json ∈ xs, OpensValue (layout.value json))
    (hitems : ∀ json ∈ xs, Reads (value depth) (layout.value json) json) :
    Reads (value (depth + 1)) ('[' :: layout.items xs) (.array xs) := by
  intro rest p _
  obtain ⟨p', hread⟩ := items_layout hopens hitems rest (bump '[' p)
  have hstart := skipSpace_cons (c := '[') (layout.items xs ++ rest) p rfl
  obtain ⟨-, -, -, -, -, harray, -⟩ := value_of_cons depth (congrArg Cursor.rest hstart)
  have hvalue := harray rfl
  rw [hstart, next, hread, map_ok] at hvalue
  refine ⟨p', ?_⟩
  rw [List.cons_append, hvalue]

/-- An object is read as the fields that its members, in whatever order, lead to. -/
theorem reads_members {members : Fields Json} {fields : SortedFields Json}
    (hleads : Leads layout (objectMember (value depth)) .empty members fields) :
    Reads (value (depth + 1)) ('{' :: layout.members members) (.object fields.toFields) := by
  intro rest p _
  obtain ⟨p', hread⟩ := members_layout hleads rest (bump '{' p)
  have hstart := skipSpace_cons (c := '{') (layout.members members ++ rest) p rfl
  have hvalue := value_of_brace depth (congrArg Cursor.rest hstart)
  rw [hstart, next, hread, map_ok] at hvalue
  refine ⟨p', ?_⟩
  rw [List.cons_append, hvalue]

theorem reads_fields (fields : SortedFields Json)
    (hvalues : ∀ field ∈ fields.toFields, Reads (value depth) (layout.value field.2) field.2) :
    Reads (value (depth + 1)) ('{' :: layout.members fields.toFields)
      (.object fields.toFields) := by
  refine reads_members (leads_insert id fun field hfield before => ?_)
  have hread := (hvalues field hfield).append_spaces (skipsSpace_value depth) layout.gap_spaces
  exact reads_objectMember hread before field.1

end

theorem leads_foldl_insert {depth : Nat} {members : Fields Json} (fields : SortedFields Json)
    (hvalues : ∀ added ∈ members, Reads (value depth) added.2.compact added.2) :
    Leads .compact (objectMember (value depth)) fields members
      (members.foldl (fun fields added => fields.insert added.1 added.2) fields) := by
  induction members generalizing fields with
  | nil => exact .nil fields
  | cons added members ih =>
    obtain ⟨hadded, hmembers⟩ := List.forall_mem_cons.1 hvalues
    exact .cons (reads_objectMember hadded fields added.1) (ih _ hmembers)

theorem reads_compact (hnearest : RealReading.IsNearest) {depth : Nat} {json : Json}
    (hjson : Json.Readable depth json) : Reads (value depth) json.compact json := by
  induction hjson with
  | null depth => exact reads_null depth
  | bool depth b => exact reads_bool depth b
  | number depth n => exact reads_number hnearest depth n
  | string depth s => exact reads_string depth s
  | array _ ih =>
    rw [Layout.compact_array]
    exact reads_items (fun json _ => opensValue_compact json) ih
  | object hsorted _ ih =>
    rw [Layout.compact_object]
    exact reads_fields ⟨_, hsorted⟩ ih

theorem reads_indented (hnearest : RealReading.IsNearest) {depth : Nat} {json : Json}
    (hjson : Json.Readable depth json) (textDepth : Nat) :
    Reads (value depth) (json.indented textDepth) json := by
  induction hjson generalizing textDepth with
  | null depth => exact reads_null depth
  | bool depth b => exact reads_bool depth b
  | number depth n => exact reads_number hnearest depth n
  | string depth s => exact reads_string depth s
  | array _ ih =>
    rw [Layout.indented_array]
    exact reads_items (fun json _ => opensValue_indented _ json) fun json hjson => ih json hjson _
  | object hsorted _ ih =>
    rw [Layout.indented_object]
    exact reads_fields ⟨_, hsorted⟩ fun field hfield => ih field hfield _

end

end Cursor

theorem Json.indented_injective [RealReading] (hnearest : RealReading.IsNearest) {depth : Nat}
    {json json' : Json} (hjson : Readable depth json) (hjson' : Readable depth json')
    {textDepth : Nat} (h : json.indented textDepth = json'.indented textDepth) : json = json' := by
  have hread := Cursor.reads_indented hnearest hjson textDepth
  rw [h] at hread
  exact hread.unique (Cursor.reads_indented hnearest hjson' textDepth)

theorem Json.readable_of_read [RealReading] {text : String} {json : Json}
    (h : Json.read text = .ok json) : Json.Readable Cursor.depthLimit json := by
  obtain ⟨⟨json', cur⟩, hvalue, hfinish⟩ := bind_eq_ok_iff.1 h
  obtain ⟨-, rfl⟩ := Cursor.finish_eq_ok_iff.1 hfinish
  exact Cursor.readable_of_value hvalue

theorem Json.sorted_of_read [RealReading] {text : String} {members : Fields Json}
    (h : Json.read text = .ok (.object members)) : Fields.Sorted members := by
  cases Json.readable_of_read h with
  | object hsorted _ => exact hsorted

end ListenQuery

import ListenQuery.Listen.Text
import ListenQuery.Proofs.Json.Values

/-!
# Data of known types

What the reader of a type can give, and that it gives a written value of its type back.
-/

namespace ListenQuery.Cursor

open Number

variable {α : Type}

section

variable {name : String} {given : Option α} {read : Reader α} {cur cur' : Cursor} {x : α}

theorem onlyOnce_eq_ok (h : onlyOnce name given read cur = .ok (x, cur')) :
    given = none ∧ ∃ start, cur.colon = .ok start ∧ read start = .ok (x, cur') := by
  unfold onlyOnce at h
  split at h
  · cases h
  · next hgiven => exact ⟨by simpa using hgiven, bind_eq_ok_iff.1 h⟩

theorem required_eq_ok (h : required name given cur = .ok x) : given = some x := by
  unfold required at h
  split at h
  · rw [Except.ok.inj h]
  · cases h

theorem optional_eq_ok {y : Option α} (h : optional read cur = .ok (y, cur')) :
    ∀ x ∈ y, ∃ start, read start = .ok (x, cur') := by
  unfold optional at h
  dsimp only at h
  split at h
  · simp only [map_eq_ok_iff, Prod.mk.injEq] at h
    obtain ⟨_, -, rfl, -⟩ := h
    nofun
  · simp only [map_eq_ok_iff, Prod.mk.injEq, Prod.exists] at h
    obtain ⟨x, _, hread, rfl, rfl⟩ := h
    rintro _ ⟨⟩
    exact ⟨_, hread⟩

variable [RealReading]

theorem unexpected_ne_ok (expected : String) : unexpected expected cur ≠ .ok x := by
  unfold unexpected
  rw [Ne, bind_eq_ok_iff]
  rintro ⟨_, -, ⟨⟩⟩

theorem braced_eq_ok {expected : String} {depth : Nat} {body : Nat → Reader α}
    (h : braced expected depth body cur = .ok (x, cur')) :
    ∃ inner rest, depth = inner + 1 ∧ cur.skipSpace.rest = '{' :: rest ∧
      body inner cur.skipSpace.next = .ok (x, cur') := by
  unfold braced at h
  dsimp only at h
  split at h
  · cases h
  · next rest hrest =>
    cases depth with
    | zero => cases h
    | succ depth => exact ⟨depth, rest, rfl, hrest, h⟩
  · exact absurd h (unexpected_ne_ok expected)

end

theorem readable_of_fieldsOf [RealReading] {depth : Nat} {cur cur' : Cursor}
    {fields : SortedFields Json} (h : fieldsOf (depth + 1) value cur = .ok (fields, cur')) :
    fields.Readable depth := by
  obtain ⟨inner, _, hdepth, -, hmembers⟩ := braced_eq_ok h
  obtain rfl := Nat.succ.inj hdepth
  exact invariant_of_membersWithin (readable_of_objectMember readable_of_value)
    (SortedFields.readable_empty depth) hmembers

theorem skipsSpace_optional (read : Reader α) : SkipsSpace (optional read) := by
  intro cur
  simp only [optional, skipSpace_skipSpace]

theorem reads_onlyOnce {read : Reader α} {text : List Char} {x : α} (name : String)
    (hread : Reads read text x) : Reads (onlyOnce name none read) (':' :: text) x := by
  intro rest p hends
  obtain ⟨p', hx⟩ := hread rest (bump ':' p) hends
  have hcolon : isSpace ':' = false := rfl
  exact ⟨p', by simp [onlyOnce, colon, skipSpace_cons _ _ hcolon, hx]⟩

theorem reads_optional {read : Reader α} {c : Char} {text : List Char} {x : α}
    (hspace : isSpace c = false) (hc : c ≠ 'n') (hread : Reads read (c :: text) x) :
    Reads (optional read) (c :: text) (some x) := by
  intro rest p hends
  obtain ⟨p', hx⟩ := hread rest p hends
  refine ⟨p', ?_⟩
  rw [List.cons_append] at hx ⊢
  simp [optional, skipSpace_cons _ _ hspace, hc, hx]

theorem leads_member? {σ : Type} {layout : Layout} {member : σ → String → Reader σ}
    (put : Option (Option α) → σ) {name : String} {json : α → Json} (value : Option α)
    (hread : ∀ x ∈ value,
      Reads (member (put none) name) (layout.tail (json x)) (put (some (some x)))) :
    Leads layout member (put none) (member? name json value) (put (value.map some)) := by
  cases value with
  | none => exact .nil _
  | some x => exact .cons (hread x rfl) (.nil _)

section

variable [RealReading]

theorem reads_text (expected : String) (s : String) : Reads (text expected) (quoted s) s := by
  intro rest p _
  obtain ⟨p', hread⟩ := string_quoted s rest (bump '"' p)
  have hspace : isSpace '"' = false := rfl
  exact ⟨p', by simp [text, quoted, skipSpace_cons _ _ hspace, hread]⟩

theorem skipsSpace_text (expected : String) : SkipsSpace (text expected) := by
  intro cur
  simp only [text, skipSpace_skipSpace]

theorem skipsSpace_braced (expected : String) (depth : Nat) (body : Nat → Reader α) :
    SkipsSpace (braced expected depth body) := by
  intro cur
  simp only [braced, skipSpace_skipSpace]

theorem reads_optional_text (expected : String) (s : String) :
    Reads (optional (text expected)) (quoted s) (some s) :=
  reads_optional rfl (by decide) (reads_text expected s)

theorem reads_int64 (n : Int64) : Reads int64 (intText n.toInt) n := by
  intro rest p hends
  have hrange : -2 ^ 63 ≤ n.toInt ∧ n.toInt < 2 ^ 64 :=
    ⟨n.le_toInt, n.toInt_lt.trans (by decide)⟩
  obtain ⟨p', hread⟩ := reads_intText hrange rest p hends
  obtain ⟨c, more, htext, hc⟩ := exists_intText_cons n.toInt
  have hspace := isSpace_of_opensNumeral hc
  rw [htext, List.cons_append] at hread
  refine ⟨p', ?_⟩
  have hlt : n.toInt < 2 ^ 63 := n.toInt_lt
  simp only [int64, htext, List.cons_append, skipSpace_cons _ _ hspace, hread, ok_bind,
    if_pos hlt, Int64.ofInt_toInt, pure_eq_ok]
  exact if_pos (by simpa using hc)

theorem reads_optional_int64 (n : Int64) : Reads (optional int64) (intText n.toInt) (some n) := by
  have hread := reads_int64 n
  obtain ⟨c, more, htext, hc⟩ := exists_intText_cons n.toInt
  rw [htext] at hread ⊢
  exact reads_optional (isSpace_of_opensNumeral hc) (ne_of_opensNumeral hc rfl) hread

theorem reads_braced (expected : String) {depth : Nat} {body : Nat → Reader α} {text : List Char}
    {x : α} (hbody : ∀ rest p, ∃ p', body depth ⟨text ++ rest, p⟩ = .ok (x, ⟨rest, p'⟩)) :
    Reads (braced expected (depth + 1) body) ('{' :: text) x := by
  intro rest p _
  obtain ⟨p', hread⟩ := hbody rest (bump '{' p)
  have hspace : isSpace '{' = false := rfl
  exact ⟨p', by simp [braced, skipSpace_cons _ _ hspace, hread]⟩

theorem reads_fieldsOf (hnearest : RealReading.IsNearest) {depth : Nat}
    {fields : SortedFields Json} (hfields : fields.Readable depth) :
    Reads (fieldsOf (depth + 1) value) (Json.object fields.toFields).compact fields := by
  refine reads_braced "a map" fun rest p => ?_
  refine members_compactMembers (leads_insert id ?_) rest p
  intro added hadded fields
  exact reads_objectMember (reads_compact hnearest (hfields added hadded)) fields added.1

theorem reads_texts (expected : String) (depth : Nat) (layout : Layout)
    (htext : ∀ s, layout.value (.string s) = quoted s) (texts : SortedFields String) :
    Reads (fieldsOf (depth + 1) fun _ => text expected)
      ('{' :: layout.members (texts.toFields.map fun field => (field.1, .string field.2))) texts := by
  refine reads_braced "a map" fun rest p => ?_
  refine members_layout
    (leads_map_insert .string id .empty texts.sorted fun field _ fields => ?_) rest p
  have hread := (reads_text expected field.2).append_spaces (skipsSpace_text expected)
    layout.gap_spaces
  rw [Layout.tail, htext]
  exact reads_objectMember hread fields field.1

end

end ListenQuery.Cursor

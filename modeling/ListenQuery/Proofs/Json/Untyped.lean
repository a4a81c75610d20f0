import ListenQuery.Listen.Text
import ListenQuery.Proofs.Json.Typed

/-!
# Typed data as values

What a reader of a type takes off a cursor is a value: the reader of values takes it off the same
cursor and leaves the same rest. Members of known types are values added to an object.
-/

namespace ListenQuery.Cursor

open Number

section

variable [RealReading] {α : Type} {depth : Nat} {read : Reader α} {json : α → Json}
  {Is : α → Json → Prop}

/-- Where `read` takes something off a cursor, that is a value, and of the result `Is` holds. -/
def TakesValue (read : Reader α) (depth : Nat) (Is : α → Json → Prop) : Prop :=
  ∀ cur x cur', read cur = .ok (x, cur') → ∃ json, Is x json ∧ value depth cur = .ok (json, cur')

theorem takesValue_int64 : TakesValue int64 depth fun n json => json = intJson n := by
  intro cur n cur' h
  unfold int64 at h
  dsimp only at h
  split at h
  · cases h
  · next c rest hrest =>
    split at h
    · next hc =>
      obtain ⟨⟨numeral, after⟩, hnumeral, hfits⟩ := bind_eq_ok_iff.1 h
      cases numeral with
      | real x hx => cases hfits
      | integer m hm =>
        simp only at hfits
        split at hfits
        · next hlt =>
          obtain ⟨rfl, rfl⟩ := Prod.mk.inj (Except.ok.inj hfits)
          refine ⟨_, rfl, ?_⟩
          have hm' : (Int64.ofInt m).toInt = m := Int64.toInt_ofInt_of_le hm.1 hlt
          rw [value_of_numeral _ hrest (by simpa using hc), hnumeral, map_ok]
          simp [intJson, hm']
        · cases hfits
    · exact absurd h (unexpected_ne_ok _)

theorem takesValue_text (expected : String) :
    TakesValue (text expected) depth fun s json => json = .string s := by
  intro cur s cur' h
  unfold text at h
  dsimp only at h
  split at h
  · cases h
  · next rest hrest => exact ⟨_, rfl, by rw [value_of_quote _ hrest, h, map_ok]⟩
  · exact absurd h (unexpected_ne_ok _)

def orNull (json : α → Json) : Option α → Json
  | none => .null
  | some x => json x

theorem takesValue_optional (h : TakesValue read depth fun x value => value = json x) :
    TakesValue (optional read) depth fun y value => value = orNull json y := by
  intro cur y cur' hread
  unfold optional at hread
  dsimp only at hread
  split at hread
  · next rest hrest =>
    obtain ⟨after, hword, heq⟩ := map_eq_ok_iff.1 hread
    obtain ⟨rfl, rfl⟩ := Prod.mk.inj heq
    exact ⟨_, rfl, by rw [value_of_null _ hrest, hword]; rfl⟩
  · obtain ⟨⟨x, after⟩, hx, heq⟩ := map_eq_ok_iff.1 hread
    obtain ⟨rfl, rfl⟩ := Prod.mk.inj heq
    obtain ⟨_, rfl, hvalue⟩ := h _ _ _ hx
    exact ⟨_, rfl, by rw [← skipsSpace_value]; exact hvalue⟩

theorem takesValue_fieldsOf :
    TakesValue (fieldsOf depth value) depth fun fields json => json = .object fields.toFields := by
  intro cur fields cur' h
  obtain ⟨inner, rest, rfl, hrest, hmembers⟩ := braced_eq_ok h
  exact ⟨_, rfl, by rw [value_of_brace _ hrest, hmembers]; rfl⟩

theorem value_of_members {σ : Type} {member : σ → String → Reader σ}
    {Holds : σ → SortedFields Json → Prop}
    (hmember : ∀ {s fields name cur s' cur'}, Holds s fields →
      member s name cur = .ok (s', cur') →
      ∃ fields', Holds s' fields' ∧
        objectMember (value depth) fields name cur = .ok (fields', cur'))
    {s s' : σ} {cur cur' : Cursor} {rest : List Char} (hs : Holds s .empty)
    (hrest : cur.skipSpace.rest = '{' :: rest)
    (h : cur.skipSpace.next.members member s = .ok (s', cur')) :
    ∃ fields, Holds s' fields ∧ value (depth + 1) cur = .ok (.object fields.toFields, cur') := by
  obtain ⟨fields, hfields, hmembers⟩ := related_of_membersWithin hmember hs h
  refine ⟨fields, hfields, ?_⟩
  rw [value_of_brace _ hrest, members, hmembers, map_ok]

section

variable {given : Option α} {name : String} {cur cur' : Cursor} {x : α}

theorem objectMember_of_onlyOnce (hread : TakesValue read depth Is)
    (h : onlyOnce name given read cur = .ok (x, cur')) (fields : SortedFields Json) :
    given = none ∧ ∃ json, Is x json ∧
      objectMember (value depth) fields name cur = .ok (fields.insert name json, cur') := by
  obtain ⟨hgiven, start, hcolon, hx⟩ := onlyOnce_eq_ok h
  obtain ⟨json, hjson, hvalue⟩ := hread _ _ _ hx
  exact ⟨hgiven, json, hjson, by simp [objectMember, hcolon, hvalue]⟩

theorem objectMember_of_objectMember {extra extra' : SortedFields Json}
    (h : objectMember (value depth) extra name cur = .ok (extra', cur'))
    (fields : SortedFields Json) :
    ∃ json, extra' = extra.insert name json ∧
      objectMember (value depth) fields name cur = .ok (fields.insert name json, cur') := by
  obtain ⟨start, json, hcolon, hvalue, rfl⟩ := objectMember_eq_ok h
  exact ⟨json, rfl, by simp [objectMember, hcolon, hvalue]⟩

end

end

end ListenQuery.Cursor

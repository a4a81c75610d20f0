import ListenQuery.Proofs.Json.Strings

/-!
# Items and members

What every item and every member keeps, the whole of an array or object keeps, also between two
readers of the same members. In the compact form and in the indented one, items are read back if
each of them is, and members are read back if they lead in turn from one state to the next.
-/

namespace ListenQuery.Cursor

theorem forall_of_itemsWithin {α : Type} {item : Reader α} {P : α → Prop}
    (hitem : ∀ {cur x cur'}, item cur = .ok (x, cur') → P x) {steps : Nat} {isFirst : Bool}
    {cur cur' : Cursor} {xs : List α} (h : itemsWithin item steps isFirst cur = .ok (xs, cur')) :
    ∀ x ∈ xs, P x := by
  fun_induction itemsWithin item steps isFirst cur generalizing xs with
  | case1 => cases h
  | case2 => cases h
  | case3 => cases h; simp
  | case4 => cases h
  | case5 => cases h
  | case6 steps isFirst cur next _ x after hx rest last hrest ih =>
    obtain ⟨rfl, rfl⟩ := Prod.mk.inj (Except.ok.inj h)
    exact List.forall_mem_cons.2 ⟨hitem hx, ih hrest⟩

theorem invariant_of_membersWithin {σ : Type} {member : σ → String → Reader σ} {I : σ → Prop}
    (hmember : ∀ {s name cur s' cur'}, I s → member s name cur = .ok (s', cur') → I s')
    {steps : Nat} {isFirst : Bool} {s s' : σ} {cur cur' : Cursor} (hs : I s)
    (h : membersWithin member steps isFirst s cur = .ok (s', cur')) : I s' := by
  fun_induction membersWithin member steps isFirst s cur with
  | case1 => cases h
  | case2 => cases h
  | case3 => cases h; exact hs
  | case4 => cases h
  | case5 steps isFirst s cur name after _ next last hnext ih => exact ih (hmember hs hnext) h

theorem related_of_membersWithin {σ τ : Type} {member : σ → String → Reader σ}
    {member' : τ → String → Reader τ} {R : σ → τ → Prop}
    (hmember : ∀ {s t name cur s' cur'}, R s t → member s name cur = .ok (s', cur') →
      ∃ t', R s' t' ∧ member' t name cur = .ok (t', cur'))
    {steps : Nat} {isFirst : Bool} {s s' : σ} {t : τ} {cur cur' : Cursor} (hst : R s t)
    (h : membersWithin member steps isFirst s cur = .ok (s', cur')) :
    ∃ t', R s' t' ∧ membersWithin member' steps isFirst t cur = .ok (t', cur') := by
  fun_induction membersWithin member steps isFirst s cur generalizing t with
  | case1 => cases h
  | case2 => cases h
  | case3 steps isFirst s cur hnext =>
    cases h
    exact ⟨t, hst, by rw [membersWithin, hnext]⟩
  | case4 => cases h
  | case5 steps isFirst s cur name after hname next last hnext ih =>
    obtain ⟨t₁, hst₁, hmember'⟩ := hmember hst hnext
    obtain ⟨t', hst', hmore⟩ := ih hst₁ h
    refine ⟨t', hst', ?_⟩
    rw [membersWithin, hname]
    simp only [hmember', hmore]

def OpensValue (text : List Char) : Prop :=
  ∃ c more, text = c :: more ∧ isSpace c = false ∧ c ≠ ']'

theorem nextItem_first {spaces text : List Char} (hspaces : AreSpaces spaces)
    (h : OpensValue text) (rest : List Char) (p : Position) :
    ∃ p', nextItem true ⟨spaces ++ (text ++ rest), p⟩ = .ok (some ⟨text ++ rest, p'⟩) := by
  obtain ⟨c, more, rfl, hspace, hclose⟩ := h
  obtain ⟨p', hskip⟩ := skipSpace_append_cons hspaces hspace (more ++ rest) p
  exact ⟨p', by simp [nextItem, hskip]⟩

theorem nextItem_comma {spaces text : List Char} (hspaces : AreSpaces spaces)
    (h : OpensValue text) (rest : List Char) (p : Position) :
    ∃ p', nextItem false ⟨',' :: (spaces ++ (text ++ rest)), p⟩ =
      .ok (some ⟨text ++ rest, p'⟩) := by
  obtain ⟨c, more, rfl, hspace, hclose⟩ := h
  obtain ⟨p', hskip⟩ := skipSpace_append_cons hspaces hspace (more ++ rest) (bump ',' p)
  have hcomma : isSpace ',' = false := rfl
  exact ⟨p', by simp [nextItem, skipSpace_cons _ _ hcomma, hskip, hclose]⟩

theorem name_quoted (name : String) (rest : List Char) (p : Position) :
    ∃ p', nextName.name ⟨quoted name ++ rest, p⟩ = .ok (some (name, ⟨rest, p'⟩)) := by
  obtain ⟨p', hread⟩ := string_quoted name rest (bump '"' p)
  exact ⟨p', by simp [nextName.name, quoted, hread]⟩

theorem skipSpace_quoted {spaces : List Char} (hspaces : AreSpaces spaces) (name : String)
    (rest : List Char) (p : Position) :
    ∃ more p', quoted name ++ rest = '"' :: more ∧
      skipSpace ⟨spaces ++ (quoted name ++ rest), p⟩ = ⟨'"' :: more, p'⟩ := by
  obtain ⟨more, hquoted⟩ : ∃ more, quoted name ++ rest = '"' :: more := ⟨_, rfl⟩
  obtain ⟨p', hskip⟩ := skipSpace_append_cons hspaces (c := '"') rfl more p
  exact ⟨more, p', hquoted, by rw [hquoted, hskip]⟩

theorem nextName_first {spaces : List Char} (hspaces : AreSpaces spaces) (name : String)
    (rest : List Char) (p : Position) :
    ∃ p', nextName true ⟨spaces ++ (quoted name ++ rest), p⟩ = .ok (some (name, ⟨rest, p'⟩)) := by
  obtain ⟨more, p₁, hquoted, hskip⟩ := skipSpace_quoted hspaces name rest p
  obtain ⟨p₂, hname⟩ := name_quoted name rest p₁
  rw [hquoted] at hname
  exact ⟨p₂, by simp [nextName, hskip, hname]⟩

theorem nextName_comma {spaces : List Char} (hspaces : AreSpaces spaces) (name : String)
    (rest : List Char) (p : Position) :
    ∃ p', nextName false ⟨',' :: (spaces ++ (quoted name ++ rest)), p⟩ =
      .ok (some (name, ⟨rest, p'⟩)) := by
  obtain ⟨more, p₁, hquoted, hskip⟩ := skipSpace_quoted hspaces name rest (bump ',' p)
  obtain ⟨p₂, hname⟩ := name_quoted name rest p₁
  rw [hquoted] at hname
  have hcomma : isSpace ',' = false := rfl
  exact ⟨p₂, by simp [nextName, skipSpace_cons _ _ hcomma, hskip, hname]⟩

/-- How items and members are laid out: the blanks before each of them, after each colon and before
the closing bracket, and the text of each value. -/
structure Layout where
  before : List Char
  gap : List Char
  after : List Char
  value : Json → List Char
  before_spaces : AreSpaces before
  gap_spaces : AreSpaces gap
  after_spaces : AreSpaces after

theorem areSpaces_nil : AreSpaces [] := by simp [AreSpaces]

theorem areSpaces_newline (depth : Nat) : AreSpaces (Json.newline depth) := by
  refine List.forall_mem_cons.2 ⟨rfl, fun c hc => ?_⟩
  rw [List.eq_of_mem_replicate hc]
  rfl

namespace Layout

def compact : Layout :=
  ⟨[], [], [], Json.compact, areSpaces_nil, areSpaces_nil, areSpaces_nil⟩

def indented (depth : Nat) : Layout where
  before := Json.newline (depth + 1)
  gap := [' ']
  after := Json.newline depth
  value := Json.indented (depth + 1)
  before_spaces := areSpaces_newline (depth + 1)
  gap_spaces := List.forall_mem_singleton.2 rfl
  after_spaces := areSpaces_newline depth

variable (layout : Layout)

def itemsRest : List Json → List Char
  | [] => layout.after ++ [']']
  | json :: rest => ',' :: (layout.before ++ (layout.value json ++ itemsRest rest))

def items : List Json → List Char
  | [] => [']']
  | json :: rest => layout.before ++ (layout.value json ++ layout.itemsRest rest)

def tail (json : Json) : List Char := ':' :: (layout.gap ++ layout.value json)

def membersRest : Fields Json → List Char
  | [] => layout.after ++ ['}']
  | (name, json) :: rest =>
    ',' :: (layout.before ++ (quoted name ++ (layout.tail json ++ membersRest rest)))

def members : Fields Json → List Char
  | [] => ['}']
  | (name, json) :: rest =>
    layout.before ++ (quoted name ++ (layout.tail json ++ layout.membersRest rest))

theorem compactRest_eq (items : List Json) : Json.compactRest items = compact.itemsRest items := by
  induction items with
  | nil => rfl
  | cons json items ih => simp [Json.compactRest, itemsRest, compact, ih]

theorem compact_array (items : List Json) :
    (Json.array items).compact = '[' :: compact.items items := by
  cases items with
  | nil => rfl
  | cons json items =>
    simp [Json.compact, Json.compactItems, Layout.items, compact, compactRest_eq]

theorem indentedRest_eq (depth : Nat) (items : List Json) :
    Json.indentedRest depth items = (indented depth).itemsRest items := by
  induction items with
  | nil => rfl
  | cons json items ih => simp [Json.indentedRest, itemsRest, indented, ih]

theorem indented_array (depth : Nat) (items : List Json) :
    (Json.array items).indented depth = '[' :: (indented depth).items items := by
  cases items with
  | nil => rfl
  | cons json items => simp [Json.indented, Layout.items, indented, indentedRest_eq]

theorem compactMembersRest_eq (members : Fields Json) :
    Json.compactMembersRest members = compact.membersRest members := by
  induction members with
  | nil => rfl
  | cons member members ih => simp [Json.compactMembersRest, membersRest, tail, compact, ih]

theorem compactMembers_eq (members : Fields Json) :
    Json.compactMembers members = compact.members members := by
  cases members with
  | nil => rfl
  | cons member members =>
    simp [Json.compactMembers, Layout.members, tail, compact, compactMembersRest_eq]

theorem compact_object (members : Fields Json) :
    (Json.object members).compact = '{' :: compact.members members := by
  rw [Json.compact, compactMembers_eq]

theorem indentedMembers_eq (depth : Nat) (members : Fields Json) :
    Json.indentedMembers depth members = (indented depth).membersRest members := by
  induction members with
  | nil => rfl
  | cons member members ih => simp [Json.indentedMembers, membersRest, tail, indented, ih]

theorem indented_object (depth : Nat) (members : Fields Json) :
    (Json.object members).indented depth = '{' :: (indented depth).members members := by
  cases members with
  | nil => rfl
  | cons member members =>
    simp [Json.indented, Layout.members, tail, indented, indentedMembers_eq]

theorem length_lt_itemsRest (items : List Json) :
    items.length < (layout.itemsRest items).length := by
  induction items with
  | nil => simp [itemsRest]
  | cons json items ih =>
    simp only [itemsRest, List.length_cons, List.length_append]
    omega

theorem endsValue_itemsRest (items : List Json) (rest : List Char) :
    EndsValue (layout.itemsRest items ++ rest) := by
  cases items with
  | nil =>
    rw [itemsRest, List.append_assoc]
    exact endsValue_append layout.after_spaces (endsValue_cons (by simp))
  | cons json items => exact endsValue_cons (by simp)

theorem length_lt_membersRest (members : Fields Json) :
    members.length < (layout.membersRest members).length := by
  induction members with
  | nil => simp [membersRest]
  | cons member members ih =>
    simp only [membersRest, List.length_cons, List.length_append]
    omega

theorem endsValue_membersRest (members : Fields Json) (rest : List Char) :
    EndsValue (layout.membersRest members ++ rest) := by
  cases members with
  | nil =>
    rw [membersRest, List.append_assoc]
    exact endsValue_append layout.after_spaces (endsValue_cons (by simp))
  | cons member members => exact endsValue_cons (by simp)

end Layout

section

variable {layout : Layout} {item : Reader Json} {items : List Json}

theorem itemsWithin_itemsRest (hopens : ∀ json ∈ items, OpensValue (layout.value json))
    (hitem : ∀ json ∈ items, Reads item (layout.value json) json) {steps : Nat}
    (hsteps : items.length < steps) (rest : List Char) (p : Position) :
    ∃ p', itemsWithin item steps false ⟨layout.itemsRest items ++ rest, p⟩ =
      .ok (items, ⟨rest, p'⟩) := by
  induction items generalizing steps p with
  | nil =>
    obtain ⟨steps, rfl⟩ := Nat.exists_eq_succ_of_ne_zero hsteps.ne'
    obtain ⟨p', hskip⟩ := skipSpace_append_cons layout.after_spaces (c := ']') rfl rest p
    exact ⟨bump ']' p', by simp [Layout.itemsRest, itemsWithin, nextItem, hskip]⟩
  | cons json items ih =>
    obtain ⟨steps, rfl⟩ := Nat.exists_eq_succ_of_ne_zero (Nat.ne_zero_of_lt hsteps)
    obtain ⟨hopen, hopens⟩ := List.forall_mem_cons.1 hopens
    obtain ⟨hread, hitem⟩ := List.forall_mem_cons.1 hitem
    obtain ⟨p₁, hnext⟩ :=
      nextItem_comma layout.before_spaces hopen (layout.itemsRest items ++ rest) p
    obtain ⟨p₂, hfirst⟩ := hread _ p₁ (layout.endsValue_itemsRest items rest)
    obtain ⟨p₃, hmore⟩ := ih hopens hitem (Nat.lt_of_succ_lt_succ hsteps) p₂
    refine ⟨p₃, ?_⟩
    simp only [Layout.itemsRest, List.cons_append, List.append_assoc, itemsWithin, hnext, hfirst,
      hmore]

theorem items_layout (hopens : ∀ json ∈ items, OpensValue (layout.value json))
    (hitem : ∀ json ∈ items, Reads item (layout.value json) json) (rest : List Char)
    (p : Position) :
    ∃ p', Cursor.items item ⟨layout.items items ++ rest, p⟩ = .ok (items, ⟨rest, p'⟩) := by
  cases items with
  | nil => exact ⟨bump ']' p, rfl⟩
  | cons json items =>
    obtain ⟨hopen, hopens⟩ := List.forall_mem_cons.1 hopens
    obtain ⟨hread, hitem⟩ := List.forall_mem_cons.1 hitem
    have hsteps : items.length < (layout.items (json :: items) ++ rest).length := by
      have hlength := layout.length_lt_itemsRest items
      simp only [Layout.items, List.length_append]
      omega
    obtain ⟨p₁, hnext⟩ :=
      nextItem_first layout.before_spaces hopen (layout.itemsRest items ++ rest) p
    obtain ⟨p₂, hfirst⟩ := hread _ p₁ (layout.endsValue_itemsRest items rest)
    obtain ⟨p₃, hmore⟩ := itemsWithin_itemsRest hopens hitem hsteps rest p₂
    refine ⟨p₃, ?_⟩
    simp only [Layout.items, List.append_assoc] at hmore ⊢
    simp only [Cursor.items, itemsWithin, hnext, hfirst, hmore]

end

section

variable {σ : Type} {layout : Layout} {member : σ → String → Reader σ}

/-- The members lead from one state to another if each is taken off by `member`, from its colon
on. -/
inductive Leads (layout : Layout) (member : σ → String → Reader σ) : σ → Fields Json → σ → Prop
  | nil (s : σ) : Leads layout member s [] s
  | cons {s s' s'' : σ} {name : String} {json : Json} {members : Fields Json}
    (h : Reads (member s name) (layout.tail json) s') (hmore : Leads layout member s' members s'') :
    Leads layout member s ((name, json) :: members) s''

theorem Leads.append {s s' s'' : σ} {members more : Fields Json}
    (h : Leads layout member s members s') (hmore : Leads layout member s' more s'') :
    Leads layout member s (members ++ more) s'' := by
  induction h with
  | nil s => exact hmore
  | cons hread _ ih => exact .cons hread (ih hmore)

theorem membersWithin_end {spaces : List Char} (hspaces : AreSpaces spaces) (steps : Nat)
    (isFirst : Bool) (s : σ) (rest : List Char) (p : Position) :
    ∃ p', membersWithin member (steps + 1) isFirst s ⟨spaces ++ '}' :: rest, p⟩ =
      .ok (s, ⟨rest, p'⟩) := by
  obtain ⟨p', hskip⟩ := skipSpace_append_cons hspaces (c := '}') rfl rest p
  exact ⟨bump '}' p', by simp [membersWithin, nextName, hskip]⟩

theorem membersWithin_membersRest {s s' : σ} {members : Fields Json}
    (h : Leads layout member s members s') {steps : Nat} (hsteps : members.length < steps)
    (rest : List Char) (p : Position) :
    ∃ p', membersWithin member steps false s ⟨layout.membersRest members ++ rest, p⟩ =
      .ok (s', ⟨rest, p'⟩) := by
  induction h generalizing steps p with
  | nil s =>
    obtain ⟨steps, rfl⟩ := Nat.exists_eq_succ_of_ne_zero hsteps.ne'
    rw [Layout.membersRest, List.append_assoc]
    exact membersWithin_end layout.after_spaces steps false s rest p
  | @cons s s' s'' name json members hread _ ih =>
    obtain ⟨steps, rfl⟩ := Nat.exists_eq_succ_of_ne_zero (Nat.ne_zero_of_lt hsteps)
    obtain ⟨p₁, hname⟩ := nextName_comma layout.before_spaces name
      (layout.tail json ++ (layout.membersRest members ++ rest)) p
    obtain ⟨p₂, hmember⟩ := hread _ p₁ (layout.endsValue_membersRest members rest)
    obtain ⟨p₃, hmore⟩ := ih (Nat.lt_of_succ_lt_succ hsteps) p₂
    refine ⟨p₃, ?_⟩
    simp only [Layout.membersRest, List.cons_append, List.append_assoc, membersWithin, hname,
      hmember, hmore]

theorem members_layout {s s' : σ} {members : Fields Json} (h : Leads layout member s members s')
    (rest : List Char) (p : Position) :
    ∃ p', Cursor.members member s ⟨layout.members members ++ rest, p⟩ = .ok (s', ⟨rest, p'⟩) := by
  cases h with
  | nil s => exact ⟨bump '}' p, rfl⟩
  | @cons s s₁ s' name json members hread hmore =>
    have hsteps : members.length < (layout.members ((name, json) :: members) ++ rest).length := by
      have hlength := layout.length_lt_membersRest members
      simp only [Layout.members, List.length_append]
      omega
    obtain ⟨p₁, hname⟩ := nextName_first layout.before_spaces name
      (layout.tail json ++ (layout.membersRest members ++ rest)) p
    obtain ⟨p₂, hmember⟩ := hread _ p₁ (layout.endsValue_membersRest members rest)
    obtain ⟨p₃, hmore⟩ := membersWithin_membersRest hmore hsteps rest p₂
    refine ⟨p₃, ?_⟩
    simp only [Layout.members, List.append_assoc] at hmore ⊢
    simp only [Cursor.members, membersWithin, hname, hmember, hmore]

theorem members_compactMembers {s s' : σ} {members : Fields Json}
    (h : Leads .compact member s members s') (rest : List Char) (p : Position) :
    ∃ p', Cursor.members member s ⟨Json.compactMembers members ++ rest, p⟩ =
      .ok (s', ⟨rest, p'⟩) := by
  rw [Layout.compactMembers_eq]
  exact members_layout h rest p

end

end ListenQuery.Cursor

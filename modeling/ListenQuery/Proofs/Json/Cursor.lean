import ListenQuery.Json.Typed
import ListenQuery.Json.Writer
import ListenQuery.Proofs.Number.DataText
import ListenQuery.Proofs.Results

/-!
# Taking text off a cursor

A reader takes a text off a cursor if it gives the value of the text and leaves what follows it.
Positions only matter for faults, so the position that is left is not named.
-/

namespace ListenQuery.Cursor

open Number

/-- What may follow a value within a text: a blank, a comma, a closing bracket or nothing. -/
def EndsValue (rest : List Char) : Prop :=
  ∀ c ∈ rest.head?, isSpace c = true ∨ c = ',' ∨ c = ']' ∨ c = '}'

def AreSpaces (cs : List Char) : Prop := ∀ c ∈ cs, isSpace c = true

theorem endsValue_nil : EndsValue [] := by simp [EndsValue]

theorem endsValue_cons {c : Char} {rest : List Char} (h : c = ',' ∨ c = ']' ∨ c = '}') :
    EndsValue (c :: rest) := by
  rintro _ ⟨⟩
  exact .inr h

theorem endsValue_append {spaces rest : List Char} (hspaces : AreSpaces spaces)
    (h : EndsValue rest) : EndsValue (spaces ++ rest) := by
  cases spaces with
  | nil => exact h
  | cons c spaces =>
    rintro _ ⟨⟩
    exact .inl (hspaces c List.mem_cons_self)

/-- `read` takes `text` off a cursor and gives `x`, whatever may follow a value. -/
def Reads {α : Type} (read : Reader α) (text : List Char) (x : α) : Prop :=
  ∀ rest p, EndsValue rest → ∃ p', read ⟨text ++ rest, p⟩ = .ok (x, ⟨rest, p'⟩)

theorem Reads.unique {α : Type} {read : Reader α} {text : List Char} {x y : α}
    (hx : Reads read text x) (hy : Reads read text y) : x = y := by
  obtain ⟨p, hread⟩ := hx [] ⟨1, 0⟩ endsValue_nil
  obtain ⟨p', hread'⟩ := hy [] ⟨1, 0⟩ endsValue_nil
  exact (Prod.mk.inj (Except.ok.inj (hread.symm.trans hread'))).1

@[simp] theorem next_cons (c : Char) (rest : List Char) (p : Position) :
    next ⟨c :: rest, p⟩ = ⟨rest, bump c p⟩ := rfl

theorem skipSpace_cons {c : Char} (rest : List Char) (p : Position) (hc : isSpace c = false) :
    skipSpace ⟨c :: rest, p⟩ = ⟨c :: rest, p⟩ := by
  simp [skipSpace, skipSpaceFrom, hc]

theorem skipSpace_skipSpace (cur : Cursor) : cur.skipSpace.skipSpace = cur.skipSpace := by
  obtain ⟨rest, p⟩ := cur
  induction rest generalizing p with
  | nil => rfl
  | cons c rest ih =>
    by_cases hc : isSpace c = true
    · simpa [skipSpace, skipSpaceFrom, hc] using ih (bump c p)
    · simp [skipSpace, skipSpaceFrom, hc]

theorem skipSpace_append {spaces : List Char} (hspaces : AreSpaces spaces) (rest : List Char)
    (p : Position) : ∃ p', skipSpace ⟨spaces ++ rest, p⟩ = skipSpace ⟨rest, p'⟩ := by
  induction spaces generalizing p with
  | nil => exact ⟨p, rfl⟩
  | cons c spaces ih =>
    have hc : isSpace c = true := hspaces c List.mem_cons_self
    obtain ⟨p', hmore⟩ := ih (fun d hd => hspaces d (List.mem_cons_of_mem c hd)) (bump c p)
    refine ⟨p', ?_⟩
    simpa [skipSpace, skipSpaceFrom, hc] using hmore

theorem skipSpace_append_cons {spaces : List Char} (hspaces : AreSpaces spaces) {c : Char}
    (hc : isSpace c = false) (rest : List Char) (p : Position) :
    ∃ p', skipSpace ⟨spaces ++ c :: rest, p⟩ = ⟨c :: rest, p'⟩ := by
  obtain ⟨p', hskip⟩ := skipSpace_append hspaces (c :: rest) p
  exact ⟨p', hskip.trans (skipSpace_cons rest p' hc)⟩

theorem Reads.map {α β : Type} {read : Reader α} {text : List Char} {x : α} (f : α → β)
    (h : Reads read text x) :
    Reads (fun cur => do
      let (x, cur) ← read cur
      pure (f x, cur)) text (f x) := by
  intro rest p hends
  obtain ⟨p', hread⟩ := h rest p hends
  exact ⟨p', by simp [hread]⟩

/-- Blanks before what `read` takes make no difference to it. -/
def SkipsSpace {α : Type} (read : Reader α) : Prop := ∀ cur, read cur.skipSpace = read cur

theorem Reads.append_spaces {α : Type} {read : Reader α} {text : List Char} {x : α}
    (hskips : SkipsSpace read) {spaces : List Char} (hspaces : AreSpaces spaces)
    (h : Reads read text x) : Reads read (spaces ++ text) x := by
  intro rest p hends
  obtain ⟨p₁, hskip⟩ := skipSpace_append hspaces (text ++ rest) p
  obtain ⟨p₂, hread⟩ := h rest p₁ hends
  refine ⟨p₂, ?_⟩
  rw [List.append_assoc, ← hskips, hskip, hskips, hread]

theorem finish_eq_ok_iff {α : Type} {x y : α} {cur : Cursor} :
    finish x cur = .ok y ↔ cur.skipSpace.rest = [] ∧ x = y := by
  by_cases hrest : cur.skipSpace.rest = [] <;> simp [finish, faultAhead, hrest]

theorem word_append (expected rest : List Char) (p : Position) :
    ∃ p', word expected ⟨expected ++ rest, p⟩ = .ok ⟨rest, p'⟩ := by
  induction expected generalizing p with
  | nil => exact ⟨p, rfl⟩
  | cons c more ih =>
    obtain ⟨p', hmore⟩ := ih (bump c p)
    exact ⟨p', by simpa [word] using hmore⟩

theorem digits_append {ds rest : List Char} (hds : AreDigits ds)
    (hrest : ∀ c ∈ rest.head?, isDigit c = false) (p : Position) :
    ∃ p', digits ⟨ds ++ rest, p⟩ = (ds, ⟨rest, p'⟩) := by
  induction ds generalizing p with
  | nil =>
    refine ⟨p, ?_⟩
    cases rest with
    | nil => rfl
    | cons c rest => simp [digits, digitsFrom, hrest c rfl]
  | cons d ds ih =>
    have hd : isDigit d = true := hds d (by simp)
    obtain ⟨p', hmore⟩ := ih (fun c hc => hds c (by simp [hc])) (bump d p)
    refine ⟨p', ?_⟩
    simp only [digits] at hmore
    simp [digits, digitsFrom, hd, hmore]

end ListenQuery.Cursor

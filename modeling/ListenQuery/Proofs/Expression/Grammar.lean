import ListenQuery.Proofs.Expression.Clauses
import ListenQuery.Proofs.Results

/-!
# The grammar of filters

A clause is a key, an operator and a literal, with blanks between them, and its text has one such
reading at most: the key ends before the first character that an operator can begin with, and the
operator is the longest that stands there. A filter is cut into its clauses at the leftmost
separators, which too can be done in one way only. So what is read is decided by the grammar, and a
text outside it is rejected at its first piece that is no clause.
-/

namespace ListenQuery

open Text

/-! ## Operators -/

namespace Operator

/-- A token that a text begins with, none of the others that it begins with being longer. -/
def IsLongest (operator : Operator) (cs : List Char) : Prop :=
  operator.token.toList <+: cs ∧
    ∀ other : Operator, other.token.toList <+: cs → other.token.length ≤ operator.token.length

theorem isLongest_append_iff {operator : Operator} {rest : List Char} :
    operator.IsLongest (operator.token.toList ++ rest) ↔
      (operator = lt ∨ operator = gt → rest.head? ≠ some '=') := by
  constructor
  · intro h hshort hhead
    obtain ⟨rest, rfl⟩ := List.head?_eq_some_iff.1 hhead
    obtain rfl | rfl := hshort
    · exact absurd (h.2 le ⟨rest, rfl⟩) (by decide)
    · exact absurd (h.2 ge ⟨rest, rfl⟩) (by decide)
  · intro h
    refine ⟨List.prefix_append _ _, fun other hother => ?_⟩
    cases operator
    case lt | gt | xor =>
      cases other <;> cases rest <;> simp_all [token, @eq_comm _ '=']
    all_goals cases other <;> decide

theorem lex_eq_some_iff {cs rest : List Char} {operator : Operator} :
    lex cs = some (operator, rest) ↔
      cs = operator.token.toList ++ rest ∧ operator.IsLongest cs := by
  constructor
  · intro h
    obtain ⟨rfl, hshort⟩ : cs = operator.token.toList ++ rest ∧
        (operator = lt ∨ operator = gt → rest.head? ≠ some '=') := by
      fun_cases lex cs
      case case4 tail htail | case6 tail htail =>
        obtain ⟨rfl, rfl⟩ : _ ∧ tail = rest := by simpa [lex] using h
        refine ⟨rfl, fun _ hhead => ?_⟩
        obtain ⟨more, rfl⟩ := List.head?_eq_some_iff.1 hhead
        exact htail more rfl
      case case8 => simp [lex] at h
      all_goals
        obtain ⟨rfl, rfl⟩ := by simpa [lex] using h
        simp [token]
    exact ⟨rfl, isLongest_append_iff.2 hshort⟩
  · intro h
    obtain ⟨rfl, hlongest⟩ := h
    rw [isLongest_append_iff] at hlongest
    cases operator
    case lt | gt => exact lex_token _ _ (hlongest (by simp))
    all_goals rfl

theorem isStart_iff {c : Char} : isStart c = true ↔ c ∈ ['=', '!', '<', '>', '^'] := by
  simp [isStart, or_assoc]

theorem isStart_of_isBlank {c : Char} (h : isBlank c = true) : isStart c = false := by
  rw [← Bool.not_eq_true, isStart_iff]
  have hnone : ∀ c ∈ ['=', '!', '<', '>', '^'], isBlank c = false := by simp [isBlank]
  intro hmem
  exact absurd h (by simp [hnone c hmem])

theorem isStart_head?_token (operator : Operator) (rest : List Char) :
    ∀ c ∈ (operator.token.toList ++ rest).head?, (! isStart c) = false := by
  cases operator <;> simp [token, isStart]

end Operator

/-! ## Clauses -/

/-- A clause as it is written: a key, an operator and a literal, and the blanks around the
operator. -/
structure Clause where
  key : List Char
  before : List Char
  operator : Operator
  after : List Char
  literal : List Char

namespace Clause

def text (c : Clause) : List Char :=
  c.key ++ (c.before ++ (c.operator.token.toList ++ (c.after ++ c.literal)))

def condition (c : Clause) : Condition :=
  ⟨String.ofList c.key, c.operator, .literal (String.ofList c.literal)⟩

structure IsProper (c : Clause) : Prop where
  key_ne_nil : c.key ≠ []
  key_plain : ∀ x ∈ c.key, isBlank x = false ∧ x ∉ ['=', '!', '<', '>', '^']
  before_blank : ∀ x ∈ c.before, isBlank x = true
  longest : c.operator.IsLongest (c.operator.token.toList ++ (c.after ++ c.literal))
  after_blank : ∀ x ∈ c.after, isBlank x = true
  literal_plain : ∀ x ∈ c.literal.head?, isBlank x = false

variable {c c' : Clause}

theorem IsProper.isKey (h : c.IsProper) : isKey c.key = true := by
  simp only [ListenQuery.isKey, Bool.and_eq_true, Bool.not_eq_true', List.isEmpty_eq_false_iff,
    List.any_eq_false, Bool.not_eq_true]
  exact ⟨h.key_ne_nil, fun x hx => (h.key_plain x hx).1⟩

theorem IsProper.not_isStart (h : c.IsProper) :
    ∀ x ∈ c.key ++ c.before, (! Operator.isStart x) = true := by
  intro x hx
  rcases List.mem_append.1 hx with hkey | hblank
  · have hplain := (h.key_plain x hkey).2
    rw [← Operator.isStart_iff] at hplain
    simpa using hplain
  · simp [Operator.isStart_of_isBlank (h.before_blank x hblank)]

theorem IsProper.takeWhile_text (h : c.IsProper) :
    c.text.takeWhile (! Operator.isStart ·) = c.key ++ c.before := by
  rw [text, ← List.append_assoc]
  exact takeWhile_append_stop h.not_isStart (Operator.isStart_head?_token _ _)

theorem IsProper.dropWhile_text (h : c.IsProper) :
    c.text.dropWhile (! Operator.isStart ·) =
      c.operator.token.toList ++ (c.after ++ c.literal) := by
  rw [text, ← List.append_assoc]
  exact dropWhile_append_stop h.not_isStart (Operator.isStart_head?_token _ _)

theorem IsProper.trimEnd_key (h : c.IsProper) : trimEnd (c.key ++ c.before) = c.key := by
  rw [trimEnd_append h.before_blank]
  exact trimEnd_of_getLast fun x hx => (h.key_plain x (List.mem_of_mem_getLast? hx)).1

theorem IsProper.trimStart_literal (h : c.IsProper) :
    trimStart (c.after ++ c.literal) = c.literal := by
  rw [trimStart_append_blank h.after_blank, trimStart_of_head h.literal_plain]

theorem IsProper.lex_rest (h : c.IsProper) :
    Operator.lex (c.operator.token.toList ++ (c.after ++ c.literal)) =
      some (c.operator, c.after ++ c.literal) :=
  Operator.lex_eq_some_iff.2 ⟨rfl, h.longest⟩

theorem IsProper.eq_of_text (h : c.IsProper) (h' : c'.IsProper) (htext : c.text = c'.text) :
    c = c' := by
  have hfront : c.key ++ c.before = c'.key ++ c'.before := by
    rw [← h.takeWhile_text, htext, h'.takeWhile_text]
  have hkey : c.key = c'.key := by rw [← h.trimEnd_key, hfront, h'.trimEnd_key]
  have hback := h.lex_rest
  rw [← h.dropWhile_text, htext, h'.dropWhile_text, h'.lex_rest, Option.some.injEq,
    Prod.mk.injEq] at hback
  obtain ⟨hoperator, hrest⟩ := hback
  have hliteral : c.literal = c'.literal := by
    rw [← h.trimStart_literal, ← hrest, h'.trimStart_literal]
  rw [Clause.mk.injEq]
  refine ⟨hkey, ?_, hoperator.symm, ?_, hliteral⟩
  · rwa [hkey, List.append_cancel_left_eq] at hfront
  · rwa [← hliteral, List.append_cancel_right_eq, eq_comm] at hrest

theorem IsProper.read_eq_ok (h : c.IsProper) {cs : List Char} (htext : c.text = trim cs) :
    Condition.read cs = .ok c.condition := by
  simp only [Condition.read, ← htext, h.takeWhile_text, h.dropWhile_text, h.lex_rest,
    h.trimEnd_key, h.isKey, h.trimStart_literal, if_true, condition]

end Clause

namespace Condition

theorem exists_clause_of_read {cs : List Char} {condition : Condition}
    (h : read cs = .ok condition) :
    ∃ c : Clause, c.IsProper ∧ c.text = trim cs ∧ c.condition = condition := by
  rw [read] at h
  split at h
  · cases h
  next operator rest hlex =>
  split at h
  · next hkey =>
    obtain ⟨hback, hlongest⟩ := Operator.lex_eq_some_iff.1 hlex
    obtain ⟨before, hfront, hbefore⟩ :=
      trimEnd_append_blank ((trim cs).takeWhile (! Operator.isStart ·))
    have hrest := List.takeWhile_append_dropWhile (p := isBlank) (l := rest)
    refine ⟨⟨trimEnd ((trim cs).takeWhile (! Operator.isStart ·)), before, operator,
      rest.takeWhile isBlank, trimStart rest⟩, ?_, ?_, Except.ok.inj h⟩
    · simp only [isKey, Bool.and_eq_true, Bool.not_eq_true', List.isEmpty_eq_false_iff,
        List.any_eq_false, Bool.not_eq_true] at hkey
      refine ⟨hkey.1, fun x hx => ⟨hkey.2 x hx, ?_⟩, List.all_eq_true.1 hbefore, ?_,
        fun x hx => List.mem_takeWhile_imp hx, head?_trimStart rest⟩
      · have hmem : x ∈ (trim cs).takeWhile (! Operator.isStart ·) := by
          rw [hfront]
          exact List.mem_append_left before hx
        rw [← Operator.isStart_iff]
        simpa using List.mem_takeWhile_imp hmem
      · rwa [trimStart, hrest, ← hback]
    · rw [Clause.text, ← List.append_assoc, ← hfront, trimStart, hrest, ← hback,
        List.takeWhile_append_dropWhile]
  · cases h

theorem read_eq_ok_iff {cs : List Char} {condition : Condition} :
    read cs = .ok condition ↔
      ∃ c : Clause, c.IsProper ∧ c.text = trim cs ∧ c.condition = condition := by
  constructor
  · exact exists_clause_of_read
  · intro h
    obtain ⟨c, hc, htext, rfl⟩ := h
    exact hc.read_eq_ok htext

theorem error_of_read {cs : List Char} {e : ExpressionError} (h : read cs = .error e) :
    e = .invalidClause (String.ofList (trim cs)) := by
  rw [read] at h
  split at h
  · exact (Except.error.inj h).symm
  · split at h
    · cases h
    · exact (Except.error.inj h).symm

end Condition

/-! ## Filters -/

/-- A text and its pieces between the leftmost separators: no separator begins before the one that
ends the first piece, and what stands behind it is cut likewise. -/
inductive Cut : List Char → List (List Char) → Prop
  | whole {text : List Char} (h : ¬ ['&', '&'] <:+: text) : Cut text [text]
  | leftmost {first rest : List Char} {pieces : List (List Char)}
    (hfirst : ∀ before after, first ++ '&' :: '&' :: rest = before ++ '&' :: '&' :: after →
      first.length ≤ before.length)
    (hrest : Cut rest pieces) : Cut (first ++ '&' :: '&' :: rest) (first :: pieces)

theorem clauses_of_not_isInfix {text : List Char} (h : ¬ ['&', '&'] <:+: text) :
    clauses text = [text] := by
  fun_induction clauses text with
  | case1 => rfl
  | case2 rest => exact absurd ⟨[], rest, rfl⟩ h
  | case3 c rest _ hnil => exact absurd hnil (clauses_ne_nil rest)
  | case4 c rest _ piece more hcons ih =>
    rw [List.infix_cons_iff, not_or] at h
    rw [ih h.2] at hcons
    obtain ⟨rfl, rfl⟩ := List.cons.inj hcons
    rfl

theorem first_of_leftmost {first rest : List Char}
    (hfirst : ∀ before after, first ++ '&' :: '&' :: rest = before ++ '&' :: '&' :: after →
      first.length ≤ before.length) :
    first.getLast? ≠ some '&' ∧ ¬ ['&', '&'] <:+: first := by
  constructor
  · intro hend
    obtain ⟨init, rfl⟩ := List.getLast?_eq_some_iff.1 hend
    have hlength := hfirst init ('&' :: rest) (by simp)
    rw [List.length_append, List.length_singleton] at hlength
    omega
  · rintro ⟨before, after, rfl⟩
    have hlength := hfirst before (after ++ '&' :: '&' :: rest) (by simp)
    simp only [List.length_append, List.length_cons] at hlength
    omega

theorem Cut.clauses_eq {text : List Char} {pieces : List (List Char)} (h : Cut text pieces) :
    clauses text = pieces := by
  induction h with
  | whole h => exact clauses_of_not_isInfix h
  | @leftmost first rest pieces hfirst _ ih =>
    obtain ⟨hend, hfree⟩ := first_of_leftmost hfirst
    rw [clauses_append hend, clauses_of_not_isInfix hfree, ih]
    rfl

theorem cut_clauses (text : List Char) : Cut text (clauses text) := by
  fun_induction clauses text with
  | case1 => exact .whole (by simp)
  | case2 rest ih => exact @Cut.leftmost [] _ _ (fun _ _ _ => Nat.zero_le _) ih
  | case3 c rest _ hnil ih => exact absurd hnil (clauses_ne_nil rest)
  | case4 c rest hsep piece more hcons ih =>
    rw [hcons] at ih
    cases ih with
    | whole h =>
      refine .whole ?_
      rw [List.infix_cons_iff, not_or]
      refine ⟨?_, h⟩
      rintro ⟨tail, htail⟩
      obtain ⟨rfl, rfl⟩ := List.cons.inj htail
      exact hsep tail rfl rfl
    | @leftmost _ after _ hfirst hrest =>
      refine @Cut.leftmost (c :: piece) _ _ (fun front back heq => ?_) hrest
      cases front with
      | nil =>
        obtain ⟨rfl, hrest⟩ := List.cons.inj heq
        exact absurd hrest (hsep back rfl)
      | cons d front =>
        obtain ⟨-, hrest⟩ := List.cons.inj heq
        exact Nat.succ_le_succ (hfirst front back hrest)

theorem cut_iff {text : List Char} {pieces : List (List Char)} :
    Cut text pieces ↔ clauses text = pieces := by
  constructor
  · exact Cut.clauses_eq
  · intro h
    exact h ▸ cut_clauses text

theorem readFilter_eq_error_iff {text : String} {e : ExpressionError}
    (htext : allBlank text.toList = false) :
    readFilter text = .error e ↔
      ∃ before piece after, clauses text.toList = before ++ piece :: after ∧
        (∀ p ∈ before, ∃ condition, Condition.read p = .ok condition) ∧
        (∀ condition, Condition.read piece ≠ .ok condition) ∧
        e = .invalidClause (String.ofList (trim piece)) := by
  rw [readFilter, if_neg (by simp [htext]), mapM_eq_error_iff]
  constructor
  · intro h
    obtain ⟨before, piece, after, hsplit, hbefore, hpiece⟩ := h
    exact ⟨before, piece, after, hsplit, hbefore, by simp [hpiece], Condition.error_of_read hpiece⟩
  · intro h
    obtain ⟨before, piece, after, hsplit, hbefore, hpiece, rfl⟩ := h
    refine ⟨before, piece, after, hsplit, hbefore, ?_⟩
    cases hread : Condition.read piece with
    | ok condition => exact absurd hread (hpiece condition)
    | error e => rw [Condition.error_of_read hread]

/-- A text is read as a clause if, without the blanks around it, it is the text of a clause, and it
is that of one clause at most. A filter that is not blank has one cut into pieces: its conditions
are those of the pieces, and if some piece is no clause, the first of them is the error. -/
theorem readFilter_grammar :
    (∀ (text : List Char) (condition : Condition), Condition.read text = .ok condition ↔
      ∃ c : Clause, c.IsProper ∧ c.text = trim text ∧ c.condition = condition) ∧
    (∀ c c' : Clause, c.IsProper → c'.IsProper → c.text = c'.text → c = c') ∧
    ∀ text : String,
      (allBlank text.toList = true → readFilter text = .ok []) ∧
      (allBlank text.toList = false → ∃ pieces,
        (∀ other, Cut text.toList other ↔ other = pieces) ∧
        (∀ conditions, readFilter text = .ok conditions ↔
          List.Forall₂ (fun piece condition => Condition.read piece = .ok condition)
            pieces conditions) ∧
        ∀ e, readFilter text = .error e ↔
          ∃ before piece after, pieces = before ++ piece :: after ∧
            (∀ p ∈ before, ∃ condition, Condition.read p = .ok condition) ∧
            (∀ condition, Condition.read piece ≠ .ok condition) ∧
            e = .invalidClause (String.ofList (trim piece))) := by
  refine ⟨fun text condition => Condition.read_eq_ok_iff,
    fun c c' h h' htext => h.eq_of_text h' htext, fun text => ⟨fun hblank => ?_, fun htext => ?_⟩⟩
  · rw [readFilter, if_pos hblank]
  · refine ⟨clauses text.toList, fun other => ?_, fun conditions => ?_,
      fun e => readFilter_eq_error_iff htext⟩
    · rw [cut_iff, eq_comm]
    · rw [readFilter, if_neg (by simp [htext]), mapM_eq_ok_iff]

end ListenQuery

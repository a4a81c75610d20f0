import ListenQuery.Proofs.Expression.Grammar

/-!
# Conditions and edits shown and read back

A condition that was read is shown with one space on each side of its operator, and reading what is
shown gives the condition again. What is shown holds no separator, because neither the key nor the
literal does, and so conditions shown with separators between them are read back one by one. An edit
is shown as it was given, but for the blanks around its key.
-/

namespace ListenQuery

open Text

/-! ## Separators -/

theorem separator_infix_append_iff {c : Char} (hc : c ≠ '&') {cs ds : List Char} :
    ['&', '&'] <:+: cs ++ c :: ds ↔ ['&', '&'] <:+: cs ∨ ['&', '&'] <:+: ds := by
  have hc' : '&' ≠ c := hc.symm
  rw [List.infix_append_iff, List.infix_cons_iff]
  constructor
  · intro h
    obtain h | (h | h) | ⟨front, back, hsplit, hfront, hback⟩ := h
    · exact .inl h
    · simp [hc'] at h
    · exact .inr h
    · cases back with
      | nil =>
        obtain rfl : front = ['&', '&'] := by simpa using hsplit.symm
        exact .inl hfront.isInfix
      | cons d back =>
        obtain rfl : d = c := (List.cons_prefix_cons.1 hback).1
        have hmem : d ∈ ['&', '&'] := by simp [hsplit]
        exact absurd hmem (by simp [hc])
  · intro h
    exact h.imp id fun h => .inl (.inr h)

theorem trim_isInfix (cs : List Char) : trim cs <:+: cs := by
  obtain ⟨blanks, hblanks, -⟩ := trimEnd_append_blank (trimStart cs)
  have hprefix : trim cs <+: trimStart cs := ⟨blanks, hblanks.symm⟩
  exact hprefix.isInfix.trans (List.dropWhile_suffix _).isInfix

theorem Cut.not_isInfix {text : List Char} {pieces : List (List Char)} (h : Cut text pieces) :
    ∀ piece ∈ pieces, ¬ ['&', '&'] <:+: piece := by
  induction h with
  | whole h => simpa using h
  | leftmost hfirst _ ih => exact List.forall_mem_cons.2 ⟨(first_of_leftmost hfirst).2, ih⟩

/-! ## Conditions -/

namespace Clause

variable {c : Clause}

/-- The clause with the spaces with which its condition is shown. There is none behind the operator
where nothing follows it. -/
def spaced (c : Clause) : Clause :=
  ⟨c.key, [' '], c.operator, if c.literal = [] then [] else [' '], c.literal⟩

theorem toList_display (c : Clause) :
    c.condition.display.toList =
      c.key ++ (' ' :: (c.operator.token.toList ++ ' ' :: c.literal)) := by
  simp [Condition.display, condition, Operand.display]

theorem IsProper.spaced (h : c.IsProper) : c.spaced.IsProper := by
  have hspace : ∀ x ∈ [' '], isBlank x = true := List.forall_mem_singleton.2 rfl
  refine ⟨h.key_ne_nil, h.key_plain, hspace, ?_, ?_, h.literal_plain⟩
  · refine Operator.isLongest_append_iff.2 fun _ => ?_
    unfold Clause.spaced
    split_ifs with hliteral <;> simp [hliteral]
  · unfold Clause.spaced
    split_ifs
    · simp
    · exact hspace

theorem IsProper.text_spaced (h : c.IsProper) (hend : ∀ x ∈ c.literal.getLast?, isBlank x = false) :
    c.spaced.text = trim c.condition.display.toList := by
  have hstart (tail : List Char) : ∀ x ∈ (c.key ++ tail).head?, isBlank x = false := by
    obtain ⟨first, rest, hkey⟩ := List.exists_cons_of_ne_nil h.key_ne_nil
    have hfirst := (h.key_plain first (by simp [hkey])).1
    simpa [hkey] using hfirst
  rw [toList_display]
  by_cases hliteral : c.literal = []
  · have hspace : ∀ x ∈ [' '], isBlank x = true := List.forall_mem_singleton.2 rfl
    have htoken : ∀ x ∈ (c.key ++ ' ' :: c.operator.token.toList).getLast?, isBlank x = false := by
      cases c.operator <;> simp [Operator.token, isBlank]
    have hshown : c.key ++ (' ' :: (c.operator.token.toList ++ [' '])) =
        [] ++ ((c.key ++ ' ' :: c.operator.token.toList) ++ [' ']) := by simp
    rw [hliteral, hshown, trim_append_blank (by simp) hspace, trim_of_ends (hstart _) htoken]
    simp [text, Clause.spaced, hliteral]
  · have hlast : ∀ x ∈ (c.key ++ ' ' :: (c.operator.token.toList ++ ' ' :: c.literal)).getLast?,
        isBlank x = false := by
      rw [show c.key ++ ' ' :: (c.operator.token.toList ++ ' ' :: c.literal) =
        (c.key ++ ' ' :: (c.operator.token.toList ++ [' '])) ++ c.literal by simp,
        List.getLast?_append_of_ne_nil _ hliteral]
      exact hend
    rw [trim_of_ends (hstart _) hlast]
    simp [text, Clause.spaced, hliteral]

end Clause

namespace Condition

structure IsReadBack (condition : Condition) : Prop where
  reads : ∀ blanks blanks' : List Char, (∀ x ∈ blanks, isBlank x = true) →
    (∀ x ∈ blanks', isBlank x = true) →
    read (blanks ++ (condition.display.toList ++ blanks')) = .ok condition
  whole : ¬ ['&', '&'] <:+: condition.display.toList

theorem isReadBack_of_read {cs : List Char} {condition : Condition} (h : read cs = .ok condition)
    (hcs : ¬ ['&', '&'] <:+: cs) : condition.IsReadBack := by
  obtain ⟨c, hc, htext, rfl⟩ := exists_clause_of_read h
  have hend : ∀ x ∈ c.literal.getLast?, isBlank x = false := by
    intro x hx
    refine getLast?_trim cs x ?_
    have hliteral : c.literal ≠ [] := List.getLast?_isSome.1 (Option.isSome_of_mem hx)
    rw [← htext, Clause.text]
    simpa only [← List.append_assoc, List.getLast?_append_of_ne_nil _ hliteral] using hx
  have hinside : ∀ part, part <:+: c.text → ¬ ['&', '&'] <:+: part := fun part hpart hseparator =>
    hcs (hseparator.trans (hpart.trans (htext ▸ trim_isInfix cs)))
  refine ⟨fun blanks blanks' hblanks hblanks' => ?_, ?_⟩
  · exact hc.spaced.read_eq_ok
      (by rw [trim_append_blank hblanks hblanks', hc.text_spaced hend])
  · have hkey := hinside c.key (List.prefix_append _ _).isInfix
    have hliteral := hinside c.literal ⟨c.key ++ c.before ++ c.operator.token.toList ++ c.after, [],
      by simp [Clause.text]⟩
    have htoken : ¬ ['&', '&'] <:+: c.operator.token.toList := by
      cases c.operator <;> decide
    rw [Clause.toList_display, separator_infix_append_iff (by decide),
      separator_infix_append_iff (by decide)]
    simp [hkey, htoken, hliteral]

def displayAll (conditions : List Condition) : String :=
  " && ".intercalate (conditions.map display)

theorem toList_displayAll_cons_cons (first next : Condition) (rest : List Condition) :
    (displayAll (first :: next :: rest)).toList =
      first.display.toList ++ ' ' :: '&' :: '&' :: ' ' :: (displayAll (next :: rest)).toList := by
  simp [displayAll, String.toList_intercalate]

theorem IsReadBack.whole_lead {condition : Condition} (h : condition.IsReadBack) {lead : List Char}
    (hlead : lead = [] ∨ lead = [' ']) :
    ¬ ['&', '&'] <:+: lead ++ condition.display.toList := by
  obtain rfl | rfl := hlead
  · exact h.whole
  · rw [← List.nil_append [' '], List.append_assoc, List.singleton_append,
      separator_infix_append_iff (by decide)]
    simp [h.whole]

/-- Conditions that are shown together are read one by one. The induction is on the conditions, with
the space that a separator leaves in front of the next of them. -/
theorem reads_displayAll {first : Condition} {conditions : List Condition}
    (h : ∀ c ∈ first :: conditions, c.IsReadBack) {lead : List Char}
    (hlead : lead = [] ∨ lead = [' ']) :
    List.Forall₂ (fun piece c => read piece = .ok c)
      (clauses (lead ++ (displayAll (first :: conditions)).toList)) (first :: conditions) := by
  have hspace : ∀ x ∈ [' '], isBlank x = true := List.forall_mem_singleton.2 rfl
  have hblank : ∀ x ∈ lead, isBlank x = true := by
    obtain rfl | rfl := hlead
    · simp
    · exact hspace
  induction conditions generalizing first lead with
  | nil =>
    have hfirst := h first List.mem_cons_self
    have hread := hfirst.reads lead [] hblank (by simp)
    rw [List.append_nil] at hread
    rw [displayAll, List.map_singleton, String.intercalate_singleton,
      clauses_of_not_isInfix (hfirst.whole_lead hlead)]
    exact .cons hread .nil
  | cons next rest ih =>
    obtain ⟨hfirst, hrest⟩ := List.forall_mem_cons.1 h
    have hsplit : lead ++ (displayAll (first :: next :: rest)).toList =
        (lead ++ (first.display.toList ++ [' '])) ++
          '&' :: '&' :: ([' '] ++ (displayAll (next :: rest)).toList) := by
      simp [toList_displayAll_cons_cons]
    have hend : (lead ++ (first.display.toList ++ [' '])).getLast? ≠ some '&' := by
      rw [← List.append_assoc, List.getLast?_concat]
      decide
    have hwhole : ¬ ['&', '&'] <:+: lead ++ (first.display.toList ++ [' ']) := by
      rw [← List.append_assoc, separator_infix_append_iff (by decide)]
      simp [hfirst.whole_lead hlead]
    rw [hsplit, clauses_append hend, clauses_of_not_isInfix hwhole]
    exact .cons (hfirst.reads lead [' '] hblank hspace) (ih hrest (.inr rfl) hspace)

theorem not_allBlank_of_read {cs : List Char} {condition : Condition}
    (h : read cs = .ok condition) : allBlank cs = false := by
  rw [← Bool.not_eq_true]
  intro hblank
  have htrim : trim cs = [] := by
    rw [trim, trimStart, List.dropWhile_eq_nil_iff.2 (List.all_eq_true.1 hblank)]
    rfl
  obtain ⟨c, hc, htext, -⟩ := exists_clause_of_read h
  rw [htrim, Clause.text, List.append_eq_nil_iff] at htext
  exact hc.key_ne_nil htext.1

theorem readFilter_displayAll {conditions : List Condition} (h : ∀ c ∈ conditions, c.IsReadBack) :
    readFilter (displayAll conditions) = .ok conditions := by
  cases conditions with
  | nil => decide
  | cons first conditions =>
    have hread := reads_displayAll h (.inl rfl)
    have hblank : allBlank (displayAll (first :: conditions)).toList = false := by
      have hfirst := (h first List.mem_cons_self).reads [] [] (by simp) (by simp)
      rw [List.nil_append, List.append_nil] at hfirst
      have hnot := not_allBlank_of_read hfirst
      cases conditions with
      | nil => simpa [displayAll] using hnot
      | cons next rest =>
        rw [allBlank] at hnot ⊢
        rw [toList_displayAll_cons_cons, List.all_append, hnot, Bool.false_and]
    rw [readFilter, if_neg (by simp [hblank]), mapM_eq_ok_iff]
    exact hread

theorem isReadBack_of_readFilter {text : String} {conditions : List Condition}
    (h : readFilter text = .ok conditions) : ∀ c ∈ conditions, c.IsReadBack := by
  rw [readFilter] at h
  split at h
  · cases h
    simp
  · intro c hc
    have hwhole := (cut_clauses text.toList).not_isInfix
    obtain ⟨piece, hpiece, hread⟩ :=
      exists_mem_of_forall₂ (List.Forall₂.flip (mapM_eq_ok_iff.1 h)) hc
    exact isReadBack_of_read hread (hwhole piece hpiece)

end Condition

/-! ## Edits -/

theorem Edit.read_display_of_read {expression : String} {e : Edit}
    (h : Edit.read expression = .ok e) : Edit.read e.display = .ok e := by
  simp only [Edit.read] at h
  split at h
  · cases h
  next value hdrop =>
  split at h
  · next hkey =>
    obtain rfl := Except.ok.inj h
    generalize hkeyText : trim (expression.toList.takeWhile (· ≠ '=')) = key at hkey
    have hplain : ∀ c ∈ key, decide (c ≠ '=') = true := by
      intro c hc
      have hbefore := List.mem_takeWhile_imp ((trim_isInfix _).subset (hkeyText ▸ hc))
      exact hbefore
    have hblank : ∀ c ∈ key, isBlank c = false := by
      simp only [isKey, Bool.and_eq_true, Bool.not_eq_true', List.any_eq_false,
        Bool.not_eq_true] at hkey
      exact hkey.2
    have hvalue : ∀ c ∈ ('=' :: value).head?, decide (c ≠ '=') = false := by simp
    have hshown : (String.ofList key ++ "=" ++ String.ofList value).toList =
        key ++ '=' :: value := by simp
    simp only [Edit.read, Edit.display, hshown, takeWhile_append_stop hplain hvalue,
      dropWhile_append_stop hplain hvalue, trim_of_not_blank hblank, hkey, if_true]
  · cases h

/-- Conditions that a filter text was read as, shown with separators between them, are read as the
same conditions, and an edit that was read is read again from what is shown of it. -/
theorem display_reads_back :
    (∀ (text : String) (conditions : List Condition), readFilter text = .ok conditions →
      readFilter (" && ".intercalate (conditions.map Condition.display)) = .ok conditions) ∧
    ∀ (expression : String) (e : Edit), Edit.read expression = .ok e →
      Edit.read e.display = .ok e := by
  refine ⟨fun text conditions h => ?_, fun expression e h => Edit.read_display_of_read h⟩
  exact Condition.readFilter_displayAll (Condition.isReadBack_of_readFilter h)

end ListenQuery

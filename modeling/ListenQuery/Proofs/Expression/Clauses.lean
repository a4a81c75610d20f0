import ListenQuery.Expression.Clause
import ListenQuery.Proofs.Text.Trim

/-!
# Cutting a text into clauses

Texts that are joined by the separator are cut into the pieces of the one and those of the other,
unless the first ends in an `&`: the leftmost separator then begins with that character. Such an
`&` belongs to the last literal where the text stands alone.
-/

namespace ListenQuery

open Text

theorem clauses_cons {c : Char} {rest piece : List Char} {more : List (List Char)}
    (hsep : c = '&' → rest.head? ≠ some '&') (h : clauses rest = piece :: more) :
    clauses (c :: rest) = (c :: piece) :: more := by
  rw [clauses, h]
  intro tail hc hrest
  exact hsep hc (by rw [hrest, List.head?_cons])

section

variable {c : Char} {rest : List Char}

theorem getLast_ne_of_cons (h : (c :: rest).getLast? ≠ some '&') : rest.getLast? ≠ some '&' := by
  cases rest <;> simp_all [List.getLast?_cons_cons]

theorem ne_nil_of_getLast_ne (h : (c :: rest).getLast? ≠ some '&') :
    ¬ (c = '&' ∧ rest = []) := by
  intro hone
  obtain ⟨rfl, rfl⟩ := hone
  exact h rfl

/-- No separator begins at a character that had none, whatever follows the text. -/
theorem head_append_ne (hsep : ∀ tail, c = '&' → rest = '&' :: tail → False)
    (hend : ¬ (c = '&' ∧ rest = [])) (more : List Char) (hc : c = '&') :
    (rest ++ more).head? ≠ some '&' := by
  intro hhead
  cases rest with
  | nil => exact hend ⟨hc, rfl⟩
  | cons d rest =>
    obtain rfl : d = '&' := by simpa using hhead
    exact hsep rest hc rfl

end

theorem clauses_append {p : List Char} (hp : p.getLast? ≠ some '&') (q : List Char) :
    clauses (p ++ '&' :: '&' :: q) = clauses p ++ clauses q := by
  fun_induction clauses p with
  | case1 => rfl
  | case2 rest ih =>
    have hrest := getLast_ne_of_cons (getLast_ne_of_cons hp)
    simp [clauses, ih hrest]
  | case3 c rest _ hnil ih => exact absurd hnil (clauses_ne_nil rest)
  | case4 c rest hsep piece more hcons ih =>
    have hall : clauses (rest ++ '&' :: '&' :: q) = piece :: (more ++ clauses q) := by
      rw [ih (getLast_ne_of_cons hp), hcons]
      rfl
    exact clauses_cons (head_append_ne hsep (ne_nil_of_getLast_ne hp) _) hall

/-- A final `&` stays with the last piece unless another one stands before it. -/
theorem clauses_concat {p : List Char} (hp : p.getLast? ≠ some '&') :
    ∃ init last, clauses p = init ++ [last] ∧ clauses (p ++ ['&']) = init ++ [last ++ ['&']] := by
  fun_induction clauses p with
  | case1 => exact ⟨[], [], rfl, rfl⟩
  | case2 rest ih =>
    obtain ⟨init, last, h₁, h₂⟩ := ih (getLast_ne_of_cons (getLast_ne_of_cons hp))
    exact ⟨[] :: init, last, by simp [h₁], by simp [clauses, h₂]⟩
  | case3 c rest _ hnil ih => exact absurd hnil (clauses_ne_nil rest)
  | case4 c rest hsep piece more hcons ih =>
    have hhead := head_append_ne hsep (ne_nil_of_getLast_ne hp) ['&']
    obtain ⟨init, last, h₁, h₂⟩ := ih (getLast_ne_of_cons hp)
    rw [hcons] at h₁
    cases init with
    | nil =>
      obtain ⟨rfl, rfl⟩ : piece = last ∧ more = [] := by simpa using h₁
      exact ⟨[], c :: piece, rfl, clauses_cons hhead h₂⟩
    | cons first init =>
      obtain ⟨rfl, rfl⟩ : piece = first ∧ more = init ++ [last] := by simpa using h₁
      exact ⟨(c :: piece) :: init, last, rfl, clauses_cons hhead h₂⟩

theorem clauses_concat_two (p : List Char) :
    ∃ first init last, clauses (p ++ ['&', '&']) = first :: (init ++ [last]) ∧
      (last = [] ∨ last = ['&']) := by
  fun_induction clauses p with
  | case1 => exact ⟨[], [], [], rfl, .inl rfl⟩
  | case2 rest ih =>
    obtain ⟨first, init, last, h, hlast⟩ := ih
    exact ⟨[], first :: init, last, by simp [clauses, h], hlast⟩
  | case3 c rest _ hnil ih => exact absurd hnil (clauses_ne_nil rest)
  | case4 c rest hsep piece more hcons ih =>
    by_cases hamp : c = '&' ∧ rest = []
    · obtain ⟨rfl, rfl⟩ := hamp
      exact ⟨[], [], ['&'], rfl, .inr rfl⟩
    · obtain ⟨first, init, last, h, hlast⟩ := ih
      have hhead := head_append_ne hsep hamp ['&', '&']
      exact ⟨c :: first, init, last, clauses_cons hhead h, hlast⟩

theorem Operator.lex_append {cs rest : List Char} {operator : Operator}
    (h : lex cs = some (operator, rest)) {more : List Char} (hmore : more.head? ≠ some '=') :
    lex (cs ++ more) = some (operator, rest ++ more) := by
  have hends (tail : List Char) (htail : ∀ r, tail = '=' :: r → False) :
      ∀ r, tail ++ more = '=' :: r → False := by
    intro r hr
    cases tail with
    | nil => exact hmore (by rw [List.nil_append] at hr; rw [hr]; rfl)
    | cons d tail =>
      obtain ⟨rfl, -⟩ := List.cons.inj hr
      exact htail tail rfl
  fun_cases lex cs with
  | case4 tail htail =>
    obtain ⟨rfl, rfl⟩ : lt = operator ∧ tail = rest := by simpa [lex] using h
    rw [List.cons_append, lex]
    exact hends tail htail
  | case6 tail htail =>
    obtain ⟨rfl, rfl⟩ : gt = operator ∧ tail = rest := by simpa [lex] using h
    rw [List.cons_append, lex]
    exact hends tail htail
  | _ => simp_all [lex]

theorem Condition.read_concat_ne {cs : List Char} {c : Condition} (h : read cs = .ok c) :
    read (cs ++ ['&']) ≠ .ok c := by
  intro h'
  rw [read] at h h'
  split at h
  · cases h
  · next op rest hlex =>
    have hne : (trim cs).dropWhile (! Operator.isStart ·) ≠ [] := by
      intro hnil
      rw [hnil] at hlex
      cases hlex
    have htrimmed : trim cs ≠ [] := by
      intro hnil
      exact hne (by rw [hnil, List.dropWhile_nil])
    obtain ⟨blanks, hblanks, htrim⟩ := exists_trim_concat (c := '&') (by decide) htrimmed
    have hdrop : (trim (cs ++ ['&'])).dropWhile (! Operator.isStart ·) =
        (trim cs).dropWhile (! Operator.isStart ·) ++ (blanks ++ ['&']) := by
      rw [htrim, List.dropWhile_append, if_neg (by simpa using hne)]
    have hhead : (blanks ++ ['&']).head? ≠ some '=' := by
      cases blanks with
      | nil => decide
      | cons b blanks =>
        rw [List.cons_append, List.head?_cons]
        rintro ⟨rfl⟩
        simp at hblanks
        exact absurd hblanks.1 (by decide)
    simp only [hdrop, Operator.lex_append hlex hhead] at h'
    split at h
    · split at h'
      · have hc := (Except.ok.inj h).trans (Except.ok.inj h').symm
        injection hc with _ _ hoperand
        injection hoperand with hliteral
        refine trimStart_append_ne ?_ (String.ofList_injective hliteral).symm
        simp [allBlank, isBlank]
      · cases h'
    · cases h

end ListenQuery

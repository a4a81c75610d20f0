import ListenQuery.Text.Blank
import Mathlib.Data.List.TakeWhile

/-!
# Trimmed texts

What trimming takes away is blank, and it leaves a text alone that ends in something else. Blanks
around a text make no difference to it.
-/

namespace ListenQuery.Text

/-! ## Runs of characters at the start -/

section

variable {p : Char → Bool} {cs tail : List Char}

theorem takeWhile_append_stop (hcs : ∀ c ∈ cs, p c = true) (htail : ∀ c ∈ tail.head?, p c = false) :
    (cs ++ tail).takeWhile p = cs := by
  rw [List.takeWhile_append_of_pos hcs]
  cases tail with
  | nil => simp
  | cons c tail => simp [htail c rfl]

theorem dropWhile_append_stop (hcs : ∀ c ∈ cs, p c = true) (htail : ∀ c ∈ tail.head?, p c = false) :
    (cs ++ tail).dropWhile p = tail := by
  rw [List.dropWhile_append_of_pos hcs]
  cases tail with
  | nil => rfl
  | cons c tail => simp [htail c rfl]

theorem head?_dropWhile_stop (p : Char → Bool) (cs : List Char) :
    ∀ c ∈ (cs.dropWhile p).head?, p c = false := by
  intro c hc
  have hhead := List.head?_dropWhile_not p cs
  rw [hc] at hhead
  simpa using hhead

end

/-! ## Blanks at the ends -/

theorem trimEnd_append_blank (cs : List Char) :
    ∃ blanks, cs = trimEnd cs ++ blanks ∧ blanks.all isBlank = true := by
  refine ⟨(cs.reverse.takeWhile isBlank).reverse, ?_, ?_⟩
  · rw [trimEnd, ← List.reverse_append, List.takeWhile_append_dropWhile, List.reverse_reverse]
  · rw [List.all_reverse]
    exact List.all_takeWhile

theorem trimStart_append_blank {blanks : List Char} (h : ∀ c ∈ blanks, isBlank c = true)
    (cs : List Char) : trimStart (blanks ++ cs) = trimStart cs :=
  List.dropWhile_append_of_pos h

theorem trimEnd_append {blanks : List Char} (h : ∀ c ∈ blanks, isBlank c = true)
    (cs : List Char) : trimEnd (cs ++ blanks) = trimEnd cs := by
  rw [trimEnd, List.reverse_append, List.dropWhile_append_of_pos (by simpa using h), trimEnd]

theorem trimStart_of_head {cs : List Char} (h : ∀ c ∈ cs.head?, isBlank c = false) :
    trimStart cs = cs := by
  cases cs with
  | nil => rfl
  | cons c cs => exact List.dropWhile_cons_of_neg (by simp [h c rfl])

theorem trimEnd_of_getLast {cs : List Char} (h : ∀ c ∈ cs.getLast?, isBlank c = false) :
    trimEnd cs = cs := by
  have hreverse : trimStart cs.reverse = cs.reverse :=
    trimStart_of_head (by rwa [List.head?_reverse])
  rw [trimEnd, ← trimStart, hreverse, List.reverse_reverse]

theorem head?_trimStart (cs : List Char) : ∀ c ∈ (trimStart cs).head?, isBlank c = false :=
  head?_dropWhile_stop isBlank cs

theorem getLast?_trimEnd (cs : List Char) : ∀ c ∈ (trimEnd cs).getLast?, isBlank c = false := by
  rw [trimEnd, List.getLast?_reverse]
  exact head?_dropWhile_stop isBlank cs.reverse

theorem getLast?_trim (cs : List Char) : ∀ c ∈ (trim cs).getLast?, isBlank c = false :=
  getLast?_trimEnd (trimStart cs)

theorem trim_of_ends {cs : List Char} (hstart : ∀ c ∈ cs.head?, isBlank c = false)
    (hend : ∀ c ∈ cs.getLast?, isBlank c = false) : trim cs = cs := by
  rw [trim, trimStart_of_head hstart, trimEnd_of_getLast hend]

theorem trim_append_blank {blanks blanks' : List Char} (h : ∀ c ∈ blanks, isBlank c = true)
    (h' : ∀ c ∈ blanks', isBlank c = true) (cs : List Char) :
    trim (blanks ++ (cs ++ blanks')) = trim cs := by
  rw [trim, trimStart_append_blank h, trimStart, List.dropWhile_append]
  split
  · next hnil =>
    have hcs : trimStart cs = [] := by simpa [trimStart] using hnil
    have hblank : blanks'.dropWhile isBlank = [] := List.dropWhile_eq_nil_iff.2 h'
    rw [trim, hcs, hblank]
  · exact trimEnd_append h' _

theorem trimEnd_concat {cs : List Char} {c : Char} (h : isBlank c = false) :
    trimEnd (cs ++ [c]) = cs ++ [c] := by
  simp [trimEnd, h]

theorem trim_of_not_blank {cs : List Char} (h : ∀ c ∈ cs, isBlank c = false) : trim cs = cs :=
  trim_of_ends (fun c hc => h c (List.mem_of_mem_head? hc))
    fun c hc => h c (List.mem_of_getLast? hc)

theorem exists_trim_concat {cs : List Char} {c : Char} (hc : isBlank c = false)
    (hne : trim cs ≠ []) :
    ∃ blanks, blanks.all isBlank = true ∧ trim (cs ++ [c]) = trim cs ++ (blanks ++ [c]) := by
  obtain ⟨blanks, hcs, hblanks⟩ := trimEnd_append_blank (trimStart cs)
  have hstart : trimStart (cs ++ [c]) = trimStart cs ++ [c] := by
    rw [trimStart, trimStart, List.dropWhile_append, if_neg]
    intro hnil
    exact hne (by simp [trim, trimStart, List.isEmpty_iff.1 hnil, trimEnd])
  refine ⟨blanks, hblanks, ?_⟩
  rw [trim, hstart, trimEnd_concat hc, ← List.append_assoc, trim, ← hcs]

theorem trimStart_append_ne {cs more : List Char} (hmore : allBlank more = false) :
    trimStart (cs ++ more) ≠ trimStart cs := by
  have hne : trimStart more ≠ [] := by
    simpa [trimStart, allBlank, List.dropWhile_eq_nil_iff] using hmore
  rw [trimStart, trimStart, List.dropWhile_append]
  split
  · next h => rwa [List.isEmpty_iff.1 h]
  · intro h
    obtain rfl : more = [] := List.append_right_eq_self.1 h
    cases hmore

end ListenQuery.Text

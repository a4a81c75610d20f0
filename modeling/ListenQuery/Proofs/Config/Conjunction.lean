import ListenQuery.Config.Combine
import ListenQuery.Proofs.Expression.Clauses
import ListenQuery.Proofs.Results

/-!
# Presets and the filter text as one conjunction

Presets and the filter text are joined and read once. The joined text means the conjunction of its
parts unless a part before the last ends in an `&`. The separator then begins with that character:
the part loses it, and the next part has the second half of the separator in front. Everything here
rests on how a joined text is cut into clauses.
-/

namespace ListenQuery

namespace Config

/-- The parts of a combination: the texts of the named presets and the filter text, without those
that are blank. -/
def parts (c : Config) (filter : Option String) (names : List String) : List String :=
  (names.filterMap c.presets.get? ++ filter.toList).filter (! isBlankText ·)

/-- A text stands for the conjunction of parts if it is read exactly when each of them is, as all
their conditions in order. -/
def StandsFor (text : Option String) (parts : List String) : Prop :=
  ∀ conditions, readFilterOption text = .ok conditions ↔
    ∃ each, List.Forall₂ (fun part cs => readFilter part = .ok cs) parts each ∧
      conditions = each.flatten

def EndsInAmpersand (part : String) : Prop := part.toList.getLast? = some '&'

instance (part : String) : Decidable (EndsInAmpersand part) :=
  inferInstanceAs (Decidable (part.toList.getLast? = some '&'))

theorem readFilter_eq_mapM {text : String} (h : isBlankText text = false) :
    readFilter text = (clauses text.toList).mapM Condition.read := by
  rw [readFilter, if_neg (by simpa [isBlankText] using h)]

theorem read_empty : Condition.read [] = .error (.invalidClause "") := by decide

theorem read_ampersand : Condition.read ['&'] = .error (.invalidClause "&") := by decide

/-- A text of clauses that ends in an `&` ends in a clause that would do without it. -/
theorem exists_last_clause {text : List Char} {conditions : List Condition}
    (hread : (clauses text).mapM Condition.read = .ok conditions)
    (hend : text.getLast? = some '&') :
    ∃ body init last, text = body ++ ['&'] ∧ body.getLast? ≠ some '&' ∧
      clauses body = init ++ [last] ∧ clauses text = init ++ [last ++ ['&']] := by
  obtain ⟨body, rfl⟩ := List.getLast?_eq_some_iff.1 hend
  have hone : body.getLast? ≠ some '&' := by
    intro htwo
    obtain ⟨front, rfl⟩ := List.getLast?_eq_some_iff.1 htwo
    obtain ⟨first, init, last, hpieces, hlast⟩ := clauses_concat_two front
    rw [List.append_assoc, List.cons_append, List.nil_append, hpieces, mapM_eq_ok_iff,
      ← List.cons_append, forall₂_append_left_iff] at hread
    obtain ⟨_, _, -, _ | ⟨hread, _⟩, -⟩ := hread
    rcases hlast with rfl | rfl
    · simp [read_empty] at hread
    · simp [read_ampersand] at hread
  obtain ⟨init, last, hinit, hall⟩ := clauses_concat hone
  exact ⟨body, init, last, rfl, hone, hinit, hall⟩

theorem forall₂_readFilter_iff {parts : List String} (hparts : ∀ p ∈ parts, isBlankText p = false)
    {conditions : List Condition} :
    (∃ each, List.Forall₂ (fun part cs => readFilter part = .ok cs) parts each ∧
        conditions = each.flatten) ↔
      (parts.flatMap (clauses ·.toList)).mapM Condition.read = .ok conditions := by
  rw [mapM_eq_ok_iff]
  induction parts generalizing conditions with
  | nil => simp
  | cons part parts ih =>
    obtain ⟨hpart, hparts⟩ := List.forall_mem_cons.1 hparts
    have hread (cs : List Condition) : readFilter part = .ok cs ↔
        List.Forall₂ (Condition.read · = .ok ·) (clauses part.toList) cs := by
      rw [readFilter_eq_mapM hpart, mapM_eq_ok_iff]
    rw [List.flatMap_cons, forall₂_append_left_iff]
    constructor
    · intro hparts'
      obtain ⟨_, _ | ⟨h, hrest⟩, rfl⟩ := hparts'
      exact ⟨_, _, (hread _).1 h, (ih hparts).1 ⟨_, hrest, rfl⟩, rfl⟩
    · intro hpieces
      obtain ⟨cs, rest, h, hrest, rfl⟩ := hpieces
      obtain ⟨each, heach, rfl⟩ := (ih hparts).2 hrest
      exact ⟨cs :: each, .cons ((hread cs).2 h) heach, rfl⟩

theorem intercalate_ampersands (part next : List Char) (parts : List (List Char)) :
    ['&', '&'].intercalate (part :: next :: parts) =
      part ++ '&' :: '&' :: ['&', '&'].intercalate (next :: parts) := by
  rw [List.intercalate_cons_cons, List.append_assoc]
  rfl

theorem clauses_intercalate {part : List Char} {parts : List (List Char)}
    (h : ∀ p ∈ (part :: parts).dropLast, p.getLast? ≠ some '&') :
    clauses (['&', '&'].intercalate (part :: parts)) = (part :: parts).flatMap clauses := by
  induction parts generalizing part with
  | nil => simp
  | cons next parts ih =>
    obtain ⟨hpart, hrest⟩ := List.forall_mem_cons.1 h
    rw [intercalate_ampersands, clauses_append hpart, ih hrest, ← List.flatMap_cons]

theorem getLast_ne_of_mapM_intercalate {part : List Char} {parts : List (List Char)}
    {conditions : List Condition}
    (heach : ((part :: parts).flatMap clauses).mapM Condition.read = .ok conditions)
    (hjoined : (clauses (['&', '&'].intercalate (part :: parts))).mapM Condition.read =
      .ok conditions) :
    ∀ p ∈ (part :: parts).dropLast, p.getLast? ≠ some '&' := by
  rw [mapM_eq_ok_iff] at heach hjoined
  induction parts generalizing part conditions with
  | nil => simp
  | cons next parts ih =>
    rw [intercalate_ampersands] at hjoined
    rw [List.flatMap_cons, forall₂_append_left_iff] at heach
    obtain ⟨cs, rest, hpart, hrest, rfl⟩ := heach
    have hend : part.getLast? ≠ some '&' := by
      intro hend
      obtain ⟨body, init, last, rfl, hbody, hinit, hall⟩ :=
        exists_last_clause (mapM_eq_ok_iff.2 hpart) hend
      rw [List.append_assoc, List.cons_append, List.nil_append, clauses_append hbody, hinit,
        List.append_assoc, forall₂_append_left_iff] at hjoined
      rw [hall, forall₂_append_left_iff] at hpart
      obtain ⟨front, _, hfront, _ | ⟨hwhole, _ | _⟩, rfl⟩ := hpart
      obtain ⟨front', _, hfront', _ | ⟨hcut, -⟩, heq⟩ := hjoined
      obtain rfl := values_unique hfront hfront'
      obtain ⟨rfl, -⟩ : _ ∧ _ := by simpa using heq
      exact Condition.read_concat_ne hcut hwhole
    rw [clauses_append hend, forall₂_append_left_iff] at hjoined
    obtain ⟨cs', rest', hpart', hrest', heq⟩ := hjoined
    obtain rfl := values_unique hpart hpart'
    obtain rfl := List.append_cancel_left heq
    exact List.forall_mem_cons.2 ⟨hend, ih hrest hrest'⟩

theorem presetTexts_eq {c : Config} {names : List String}
    (hnames : ∀ name ∈ names, (c.presets.get? name).isSome) :
    c.presetTexts names = .ok (names.filterMap c.presets.get?) := by
  rw [presetTexts, mapM_eq_ok_iff]
  induction names with
  | nil => exact .nil
  | cons name names ih =>
    obtain ⟨hname, hnames⟩ := List.forall_mem_cons.1 hnames
    obtain ⟨text, htext⟩ := Option.isSome_iff_exists.1 hname
    simp only [List.filterMap_cons, htext]
    exact .cons (by simp [htext]) (ih hnames)

theorem combine_eq {c : Config} {filter : Option String} {names : List String}
    (hnames : ∀ name ∈ names, (c.presets.get? name).isSome) :
    c.combine filter names = .ok (conjoin (c.parts filter names)) := by
  simp [combine, presetTexts_eq hnames, conjoin, parts, bind, Except.bind]

theorem readFilterOption_conjoin {part : String} {parts : List String}
    (hparts : ∀ p ∈ part :: parts, isBlankText p = false) :
    readFilterOption (conjoin (part :: parts)) =
      (clauses (['&', '&'].intercalate ((part :: parts).map String.toList))).mapM
        Condition.read := by
  have hfilter : (part :: parts).filter (! isBlankText ·) = part :: parts :=
    List.filter_eq_self.2 fun p hp => by simp [hparts p hp]
  have htext : (conjunction.intercalate (part :: parts)).toList =
      ['&', '&'].intercalate ((part :: parts).map String.toList) := by
    rw [String.toList_intercalate]
    rfl
  have hblank : isBlankText (conjunction.intercalate (part :: parts)) = false := by
    obtain ⟨c, hc, hblank⟩ := List.all_eq_false.1 (hparts part List.mem_cons_self)
    rw [isBlankText, htext]
    refine List.all_eq_false.2 ⟨c, ?_, hblank⟩
    cases parts <;> simp [List.intercalate_cons_cons, hc]
  rw [conjoin, hfilter, readFilterOption, readFilter_eq_mapM hblank, htext]

theorem isBlankText_of_mem_parts {c : Config} {filter : Option String} {names : List String}
    {part : String} (h : part ∈ c.parts filter names) : isBlankText part = false := by
  simpa using (List.mem_filter.1 h).2

section

variable {part : String} {parts : List String}

theorem standsFor_conjoin (hparts : ∀ p ∈ part :: parts, isBlankText p = false)
    (hends : ∀ p ∈ (part :: parts).dropLast, ¬ EndsInAmpersand p) :
    StandsFor (conjoin (part :: parts)) (part :: parts) := by
  intro cs
  have hlast : ∀ p ∈ ((part :: parts).map String.toList).dropLast, p.getLast? ≠ some '&' := by
    rwa [← List.map_dropLast, List.forall_mem_map]
  have hclauses := clauses_intercalate hlast
  rw [forall₂_readFilter_iff hparts, readFilterOption_conjoin hparts, ← List.flatMap_map]
  exact (congrArg (·.mapM Condition.read = .ok cs) hclauses).to_iff

theorem StandsFor.not_endsInAmpersand (hparts : ∀ p ∈ part :: parts, isBlankText p = false)
    (h : StandsFor (conjoin (part :: parts)) (part :: parts))
    (hall : ∀ p ∈ part :: parts, ∃ cs, readFilter p = .ok cs) :
    ∀ p ∈ (part :: parts).dropLast, ¬ EndsInAmpersand p := by
  obtain ⟨each, heach⟩ := exists_forall₂_iff.2 hall
  have hread := (h each.flatten).2 ⟨each, heach, rfl⟩
  have hone := (forall₂_readFilter_iff hparts).1 ⟨each, heach, rfl⟩
  rw [← List.flatMap_map] at hone
  rw [readFilterOption_conjoin hparts] at hread
  have hends := getLast_ne_of_mapM_intercalate hone hread
  rwa [← List.map_cons, ← List.map_dropLast, List.forall_mem_map] at hends

theorem standsFor_of_rejected {text : Option String} (hmem : part ∈ parts)
    (hpart : ∀ cs, readFilter part ≠ .ok cs)
    (htext : ∀ cs, readFilterOption text ≠ .ok cs) : StandsFor text parts := by
  intro cs
  constructor
  · intro h
    exact absurd h (htext cs)
  · intro h
    obtain ⟨each, heach, -⟩ := h
    obtain ⟨cs, h⟩ := exists_forall₂_iff.1 ⟨each, heach⟩ part hmem
    exact absurd h (hpart cs)

end

/-- A combined text stands for the conjunction of its parts if no part but the last ends in an `&`.
Otherwise it does so only where a part is rejected and the combined text is rejected too. -/
theorem combine_standsFor_iff (c : Config) (filter : Option String) (names : List String)
    (hnames : ∀ name ∈ names, (c.presets.get? name).isSome) :
    ∃ text, c.combine filter names = .ok text ∧
      (StandsFor text (c.parts filter names) ↔
        (∀ part ∈ (c.parts filter names).dropLast, ¬ EndsInAmpersand part) ∨
          (∃ part ∈ c.parts filter names, ∀ cs, readFilter part ≠ .ok cs) ∧
            ∀ cs, readFilterOption text ≠ .ok cs) := by
  refine ⟨_, combine_eq hnames, ?_⟩
  have hblank (part : String) (h : part ∈ c.parts filter names) := isBlankText_of_mem_parts h
  generalize c.parts filter names = parts at hblank
  cases parts with
  | nil => simp [StandsFor, conjoin, readFilterOption]
  | cons part parts =>
    constructor
    · intro h
      by_cases hall : ∀ p ∈ part :: parts, ∃ cs, readFilter p = .ok cs
      · exact .inl (h.not_endsInAmpersand hblank hall)
      · refine .inr ⟨by simpa only [not_forall, not_exists, exists_prop] using hall, ?_⟩
        intro cs hread
        obtain ⟨each, heach, -⟩ := (h cs).1 hread
        exact hall (exists_forall₂_iff.1 ⟨each, heach⟩)
    · intro h
      rcases h with hends | ⟨⟨p, hp, hrejected⟩, htext⟩
      · exact standsFor_conjoin hblank hends
      · exact standsFor_of_rejected hp hrejected htext

theorem combine_standsFor_two_presets :
    ∃ text, Config.combine
        ⟨⟨[("long", "duration_ms>=30000"), ("sleeve", " a == &b")], by decide⟩, .default⟩
        (some "skipped!=1") ["sleeve", "long"] = .ok text ∧
      StandsFor text [" a == &b", "duration_ms>=30000", "skipped!=1"] := by
  obtain ⟨text, htext, hiff⟩ := combine_standsFor_iff
    ⟨⟨[("long", "duration_ms>=30000"), ("sleeve", " a == &b")], by decide⟩, .default⟩
    (some "skipped!=1") ["sleeve", "long"] (by decide)
  exact ⟨text, htext, hiff.2 (.inl (by decide +kernel))⟩

/-- A preset that ends in an `&` loses it to the separator, and the filter text begins with it. -/
theorem combine_not_standsFor :
    Config.combine ⟨⟨[("rock", "a==R&")], by decide⟩, .default⟩ (some "b==2") ["rock"] =
        .ok (some "a==R&&&b==2") ∧
      readFilter "a==R&&&b==2" =
        .ok [⟨"a", .eq, .literal "R"⟩, ⟨"&b", .eq, .literal "2"⟩] ∧
      ¬ StandsFor (some "a==R&&&b==2") ["a==R&", "b==2"] := by
  have hjoined : readFilter "a==R&&&b==2" =
      .ok [⟨"a", .eq, .literal "R"⟩, ⟨"&b", .eq, .literal "2"⟩] := by decide +kernel
  refine ⟨by decide +kernel, hjoined, fun h => ?_⟩
  have heach : List.Forall₂ (fun part cs => readFilter part = .ok cs) ["a==R&", "b==2"]
      [[⟨"a", .eq, .literal "R&"⟩], [⟨"b", .eq, .literal "2"⟩]] :=
    .cons (by decide +kernel) (.cons (by decide +kernel) .nil)
  exact absurd (hjoined.symm.trans ((h _).2 ⟨_, heach, rfl⟩)) (by decide)

end Config
end ListenQuery

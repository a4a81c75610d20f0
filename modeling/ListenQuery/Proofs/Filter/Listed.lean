import ListenQuery.Proofs.Filter.Evaluation
import ListenQuery.Proofs.Filter.Leaves
import ListenQuery.Proofs.Number.Rational

/-!
# Listed values

A string or a number in the list of a key is among the values that the key's set condition matches:
a listen whose attribute is that value is rejected when the list is excluded and passes when it is
included. A boolean gives the literal `true` or `false`, which spells no number, so it matches only
if its number is listed too. The literal of a number spells that number, be it an integer or a
double.
-/

namespace ListenQuery

open Number

namespace ListSource

theorem not_spellsBool_boolText (b : Bool) : ¬ SpellsBool b (boolText b) := by
  have hnone : readNumber (boolText b) = none := by cases b <;> rfl
  simp [SpellsBool, hnone]

theorem Gives.isScalar {json : Json} {text : String} (h : Gives json text) :
    (Value.ofJson json).IsScalar := by
  cases h <;> exact ⟨rfl, nofun⟩

def Lists [RealReading] (s : ListSource) (key : String) (json : Json) : Prop :=
  ∃ members items, Json.read s.content = .ok (.object members) ∧ (key, .array items) ∈ members ∧
    json.Listed items

section

variable [RealReading] {s : ListSource} {entries : Fields (List String)} {key : String}
  {json : Json} {text : String}

theorem exists_entry_of_lists (hentries : s.entries = .ok entries) (hlists : s.Lists key json)
    (hgives : Gives json text) : ∃ literals, (key, literals) ∈ entries ∧ text ∈ literals := by
  obtain ⟨members, items, hread, hmem, hlisted⟩ := hlists
  have hleaf := Json.mem_leaves_array_iff.2 ⟨hlisted, hgives.ne_array⟩
  obtain ⟨⟨k, literals⟩, hentry, rfl, -, hleaves⟩ :=
    exists_mem_of_forall₂ ((entries_eq_ok_iff hread).1 hentries) hmem
  obtain ⟨text', htext, hgives'⟩ := exists_mem_of_forall₂ hleaves hleaf
  exact ⟨literals, hentry, hgives.unique hgives' ▸ htext⟩

theorem condition_of_entry {literals : List String} (hentries : s.entries = .ok entries)
    (hmem : (key, literals) ∈ entries) :
    (entries.map ListRole.included.condition).filter (·.key = key) = [.oneOf key literals] := by
  have hfilter := Fields.filter_of_mem (sorted_entries hentries) hmem
  have hkey : ∀ entry : String × List String, (ListRole.included.condition entry).key = entry.1 :=
    fun _ => rfl
  simp only [List.filter_map, Function.comp_def, hkey, hfilter]
  rfl

theorem mem_conditions_of_entry {o : FilterOptions} {f : Filter} {literals : List String}
    (hentries : s.entries = .ok entries) (hmem : (key, literals) ∈ entries)
    (hsource : o.excluded = some s) (hf : (Filter.build o).result = .ok f) :
    .noneOf key literals ∈ f.conditions := by
  cases Filter.result_build_eq_ok_iff.1 hf with
  | intro _ _ _ hexcluded _ _ _ =>
    rw [hsource] at hexcluded
    obtain rfl := Except.ok.inj (hentries.symm.trans hexcluded)
    refine List.mem_append_left _ (List.mem_append_right _ ?_)
    exact List.mem_map.2 ⟨(key, literals), hmem, rfl⟩

theorem result_build_excluded (hentries : s.entries = .ok entries) :
    (Filter.build { FilterOptions.none with excluded := some s }).result =
      .ok ⟨.default, entries.map ListRole.excluded.condition⟩ := by
  refine Filter.result_build_eq_ok_iff.2 ?_
  have hdescribes : FilterOptions.Describes { FilterOptions.none with excluded := some s } _ :=
    .intro rfl rfl rfl hentries (sorted_entries hentries) rfl Fields.sorted_nil
  rwa [List.nil_append, List.map_nil, List.append_nil] at hdescribes

/-- A listed string or number matches itself. A listed boolean matches itself if and only if the
list of its key has a literal that spells its number, which its own literal does not. -/
theorem matches_of_lists (hentries : s.entries = .ok entries) (hlists : s.Lists key json)
    (hgives : Gives json text) {l : Listen} (hl : l.get key = .ofJson json) :
    ∃ literals,
      (entries.map ListRole.included.condition).filter (·.key = key) = [.oneOf key literals] ∧
      let listed := ∀ b, json = .bool b → ∃ literal ∈ literals, SpellsBool b literal
      (listed → evaluate (.oneOf key literals) (l.get key) = .ok .pass ∧
        ∀ o f, o.excluded = some s → (Filter.build o).result = .ok f →
          f.range.contains l.listenedAt = true →
            (∃ warnings, f.check l = .ok ⟨false, warnings⟩) ∨
              ∃ other kind, other ≠ key ∧ f.check l = .error (.unsupportedValue other kind)) ∧
      (¬ listed → evaluate (.oneOf key literals) (l.get key) = .ok .fail ∧
        evaluate (.noneOf key literals) (l.get key) = .ok .pass) ∧
      ∀ b, json = .bool b → ¬ SpellsBool b text := by
  obtain ⟨literals, hmem, htext⟩ := exists_entry_of_lists hentries hlists hgives
  have hscalar : (l.get key).IsScalar := hl ▸ hgives.isScalar
  obtain ⟨honeOf, hnoneOf⟩ := Value.evaluate_set hscalar key literals
  have hiff : (∃ literal ∈ literals, (l.get key).Equals literal) ↔
      ∀ b, json = .bool b → ∃ literal ∈ literals, SpellsBool b literal := by
    rw [hl]
    cases hgives with
    | string => exact ⟨fun _ _ h => (nomatch h), fun _ => ⟨_, htext, Value.equals_string _⟩⟩
    | number => exact ⟨fun _ _ h => (nomatch h), fun _ => ⟨_, htext, Value.equals_number _⟩⟩
    | bool b => simp [Value.equals_bool_iff]
  refine ⟨literals, condition_of_entry hentries hmem, fun hlisted => ⟨?_, ?_⟩, fun hnot => ?_, ?_⟩
  · rw [honeOf, decide_eq_true (hiff.2 hlisted)]
    rfl
  · intro o f hsource hf hrange
    have hcondition := mem_conditions_of_entry hentries hmem hsource hf
    have hfail : evaluate (.noneOf key literals) (l.get key) = .ok .fail := by
      rw [hnoneOf, decide_eq_true (hiff.2 hlisted)]
      rfl
    rcases Filter.check_of_fail hrange hcondition hfail with hrejected | ⟨d, e, heval, herror⟩
    · exact .inl hrejected
    · obtain ⟨hnot, kind, rfl⟩ := Value.not_isScalar_of_evaluate heval
      refine .inr ⟨d.key, kind, ?_, herror⟩
      rintro hkey
      exact hnot (hkey ▸ hscalar)
  · rw [honeOf, hnoneOf, decide_eq_false (hiff.not.2 hnot)]
    exact ⟨rfl, rfl⟩
  · rintro b rfl
    cases hgives
    exact not_spellsBool_boolText b

end

theorem read_nested : Json.read "\x7b\"n\":[true,[2,\"x\"]]\x7d" =
    .ok (.object [("n", .array [.bool true,
      .array [.number (.integer 2 (by decide)), .string "x"]])]) := by
  delta Json.read Cursor.value
  rfl

theorem read_true : Json.read "\x7b\"loved\":[true]\x7d" =
    .ok (.object [("loved", .array [.bool true])]) := by
  delta Json.read Cursor.value
  rfl

theorem matches_of_lists_nested :
    let s : ListSource := ⟨"x.json", "\x7b\"n\":[true,[2,\"x\"]]\x7d"⟩
    let two : Json := .number (.integer 2 (by decide))
    let l := (Listen.ofNames 5 "A" "T").insertInfo "n" two
    let f : Filter := ⟨.default, [.noneOf "n" ["true", "2", "x"]]⟩
    s.entries = .ok [("n", ["true", "2", "x"])] ∧ s.Lists "n" two ∧
      (Filter.build { FilterOptions.none with excluded := some s }).result = .ok f ∧
      evaluate (.oneOf "n" ["true", "2", "x"]) (l.get "n") = .ok .pass ∧
      ((∃ warnings, f.check l = .ok ⟨false, warnings⟩) ∨
        ∃ other kind, other ≠ "n" ∧ f.check l = .error (.unsupportedValue other kind)) := by
  intro s two l f
  have hread : Json.read s.content =
      .ok (.object [("n", .array [.bool true, .array [two, .string "x"]])]) := read_nested
  have htext : String.ofList (Numeral.integer 2 (by decide)).text = "2" := by decide +kernel
  have hentries : s.entries = .ok [("n", ["true", "2", "x"])] := by
    simp [entries, hread, entry, literals, two, htext, boolText]
  have hlists : s.Lists "n" two :=
    ⟨_, _, hread, List.mem_singleton_self _,
      .nested (List.mem_cons_of_mem _ (List.mem_singleton_self _)) (.item List.mem_cons_self)⟩
  have hf : (Filter.build { FilterOptions.none with excluded := some s }).result = .ok f :=
    result_build_excluded hentries
  obtain ⟨literals, hcondition, hmatched, -⟩ :=
    matches_of_lists (l := l) hentries hlists (.number _) rfl
  obtain rfl : ["true", "2", "x"] = literals := by
    simpa [ListRole.condition, Condition.oneOf] using hcondition
  have hnumber : ∀ b, two = .bool b → ∃ literal ∈ ["true", "2", "x"], SpellsBool b literal := by
    intro b heq
    simp [two] at heq
  obtain ⟨hpass, hrejected⟩ := hmatched hnumber
  exact ⟨hentries, hlists, hf, hpass, hrejected _ f rfl hf (by decide +kernel)⟩

/-- A listed `true` does not match an attribute that is `true`. -/
theorem not_matches_listed_true :
    let s : ListSource := ⟨"x.json", "\x7b\"loved\":[true]\x7d"⟩
    let l := (Listen.ofNames 5 "A" "T").insertInfo "loved" (.bool true)
    let f : Filter := ⟨.default, [.noneOf "loved" ["true"]]⟩
    s.entries = .ok [("loved", ["true"])] ∧ s.Lists "loved" (.bool true) ∧
      l.get "loved" = .ofJson (.bool true) ∧
      (Filter.build { FilterOptions.none with excluded := some s }).result = .ok f ∧
      f.range.contains l.listenedAt = true ∧ f.check l = .ok ⟨true, []⟩ ∧
      evaluate (.oneOf "loved" ["true"]) (l.get "loved") = .ok .fail := by
  intro s l f
  have hread : Json.read s.content = .ok (.object [("loved", .array [.bool true])]) := read_true
  have hentries : s.entries = .ok [("loved", ["true"])] := by
    simp [entries, hread, entry, literals, boolText]
  have hlists : s.Lists "loved" (.bool true) :=
    ⟨_, _, hread, List.mem_singleton_self _, .item (List.mem_singleton_self _)⟩
  have hf : (Filter.build { FilterOptions.none with excluded := some s }).result = .ok f :=
    result_build_excluded hentries
  exact ⟨hentries, hlists, rfl, hf, by decide +kernel, by decide +kernel, by decide +kernel⟩

/-! ## Numbers -/

theorem forall₂_text_of_literals {items : List Json} {texts : List String}
    (h : literals items = some texts) (n : Numeral) :
    List.Forall₂ (fun leaf text => leaf = .number n → text = String.ofList n.text)
      (Json.array items).leaves texts := by
  refine (literals_eq_some_iff.1 h).imp fun leaf text hgives hleaf => ?_
  subst hleaf
  exact hgives.unique (.number n)

/-- A number gives one literal wherever it is listed, and the literal spells the very double that
the number is as a value. It is the one nearest to the exact value of the literal, which for an
integer is that integer, and a double is spelled itself. -/
theorem literals_number (n : Numeral) :
    ∃ (text : String) (q : ℚ) (x : Double),
      literals [.number n] = some [text] ∧
      (∀ items texts, literals items = some texts →
        List.Forall₂ (fun leaf made => leaf = .number n → made = text)
          (Json.array items).leaves texts) ∧
      readNumber text = some x ∧ Value.ofJson (.number n) = .number x ∧
      HasValue text q ∧ x.signedPlace = Double.signedNearest q ∧
      (∀ k hk, n = .integer k hk → q = k) ∧ ∀ y hy, n = .real y hy → x = y := by
  obtain ⟨q, hvalue, hinteger⟩ := exists_hasValue_text n
  obtain ⟨x, hread, hnearest⟩ := hvalue.exists_readNumber
  obtain rfl : n.toDouble = x := Option.some.inj ((readNumber_text n).symm.trans hread)
  refine ⟨String.ofList n.text, q, n.toDouble, (Gives.number n).literals_singleton,
    fun items texts h => forall₂_text_of_literals h n, hread, rfl, hvalue, hnearest, hinteger, ?_⟩
  rintro y hy rfl
  rfl

theorem literals_number_smallest :
    let smallest : Double := ⟨false, 1, by decide⟩
    let n : Numeral := .real smallest (by decide)
    let items : List Json := [.string "a", .array [.array [], .array [.number n]]]
    literals items = some ["a", "5e-324"] ∧ readNumber "5e-324" = some smallest ∧
      Value.ofJson (.number n) = .number smallest := by
  intro smallest n items
  have htext : String.ofList n.text = "5e-324" := by decide +kernel
  have hitems : literals items = some ["a", "5e-324"] := by
    simp [items, literals, htext]
  obtain ⟨text, q, x, -, hlisted, hread, hvalue, -, -, -, hreal⟩ := literals_number n
  have hleaves : (Json.array items).leaves = [.string "a", .number n] := by
    simp [items, Json.leaves]
  have hmade := hlisted _ _ hitems
  rw [hleaves] at hmade
  obtain _ | ⟨-, _ | ⟨hnumber, -⟩⟩ := hmade
  obtain rfl : "5e-324" = text := hnumber rfl
  obtain rfl : x = smallest := hreal smallest _ rfl
  exact ⟨hitems, hread, hvalue⟩

end ListSource

end ListenQuery

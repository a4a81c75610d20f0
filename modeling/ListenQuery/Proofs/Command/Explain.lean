import ListenQuery.Proofs.Command.Writing
import ListenQuery.Proofs.Filter.Build
import ListenQuery.Proofs.Listen.RoundTrip
import ListenQuery.Proofs.Time.Text

/-!
# Explanations tell filters and edits apart

An explanation as JSON shows all that there is to a filter and its edits. A bound that is not shown
is the default one, no two other bounds are shown alike, and a literal and a set of literals are
written as different kinds of values. So filters that are explained alike keep the same listens, and
edits that are explained alike change a listen in the same way.
-/

namespace ListenQuery

open Number

theorem Operator.name_injective : Function.Injective Operator.name := by
  intro o o' h
  cases o <;> cases o' <;> first | rfl | exact absurd h (by decide)

theorem boundText_injective (default : Timestamp) : Function.Injective (boundText default) := by
  intro t t' h
  unfold boundText at h
  split_ifs at h with ht ht'
  · rw [ht, ht']
  · exact Timestamp.text_injective (Option.some.inj h)

theorem Json.string_injective : Function.Injective Json.string := fun _ _ => Json.string.inj

theorem Operand.toJson_injective : Function.Injective Operand.toJson := by
  intro operand operand' h
  cases operand with
  | literal text =>
    cases operand' with
    | literal text' => exact congrArg Operand.literal (Json.string.inj h)
    | set literals' => cases h
  | set literals =>
    cases operand' with
    | literal text' => cases h
    | set literals' =>
      exact congrArg Operand.set (List.map_injective_iff.2 Json.string_injective (Json.array.inj h))

theorem Condition.toJson_injective : Function.Injective Condition.toJson := by
  intro c c' h
  obtain ⟨key, operator, operand⟩ := c
  obtain ⟨key', operator', operand'⟩ := c'
  simp only [toJson, Json.object.injEq, List.cons.injEq, Prod.mk.injEq, true_and, and_true,
    Json.string.injEq] at h
  obtain ⟨hkey, hoperand, hoperator⟩ := h
  rw [mk.injEq]
  exact ⟨hkey, Operator.name_injective hoperator, Operand.toJson_injective hoperand⟩

theorem Edit.toJson_injective : Function.Injective Edit.toJson := by
  intro edit edit' h
  obtain ⟨key, value⟩ := edit
  obtain ⟨key', value'⟩ := edit'
  simpa [toJson] using h

namespace Explanation

theorem boundJson_injective : Function.Injective boundJson := by
  intro bound bound' h
  cases bound <;> cases bound' <;> simp_all [boundJson]

theorem toJson_injective : Function.Injective toJson := by
  intro e e' h
  obtain ⟨after, before, conditions, edits⟩ := e
  obtain ⟨after', before', conditions', edits'⟩ := e'
  simp only [toJson, Json.object.injEq, List.cons.injEq, Prod.mk.injEq, true_and, and_true,
    Json.array.injEq] at h
  obtain ⟨hafter, hbefore, hconditions, hedits⟩ := h
  rw [mk.injEq]
  exact ⟨boundJson_injective hafter, boundJson_injective hbefore,
    List.map_injective_iff.2 Condition.toJson_injective hconditions,
    List.map_injective_iff.2 Edit.toJson_injective hedits⟩

theorem of_injective {f f' : Filter} {m m' : Modifier} (h : of f m = of f' m') :
    f = f' ∧ m = m' := by
  obtain ⟨⟨min, max⟩, conditions⟩ := f
  obtain ⟨⟨min', max'⟩, conditions'⟩ := f'
  obtain ⟨edits⟩ := m
  obtain ⟨edits'⟩ := m'
  obtain ⟨hmin, hmax, rfl, rfl⟩ := mk.inj h
  obtain rfl := boundText_injective _ hmin
  obtain rfl := boundText_injective _ hmax
  exact ⟨rfl, rfl⟩

/-! ## The text -/

theorem readable_operand (depth : Nat) (operand : Operand) :
    Json.Readable (depth + 1) operand.toJson := by
  cases operand with
  | literal text => exact .string _ _
  | set literals => exact .array (List.forall_mem_map.2 fun _ _ => .string _ _)

theorem readable_condition (depth : Nat) (c : Condition) :
    Json.Readable (depth + 2) c.toJson := by
  refine .object (Fields.sorted_of_names rfl (by decide : List.Pairwise _ ["key", "operand",
    "operator"])) ?_
  simp only [List.forall_mem_cons]
  exact ⟨.string _ _, readable_operand depth c.operand, .string _ _, by simp⟩

theorem readable_edit (depth : Nat) (edit : Edit) : Json.Readable (depth + 1) edit.toJson := by
  refine .object (Fields.sorted_of_names rfl (by decide : List.Pairwise _ ["key", "value"])) ?_
  simp only [List.forall_mem_cons]
  exact ⟨.string _ _, .string _ _, by simp⟩

theorem readable_bound (depth : Nat) (bound : Option String) :
    Json.Readable depth (boundJson bound) := by
  cases bound with
  | none => exact .null _
  | some text => exact .string _ _

theorem readable_toJson (depth : Nat) (e : Explanation) : Json.Readable (depth + 4) e.toJson := by
  refine .object (Fields.sorted_of_names rfl (by decide : List.Pairwise _ ["after", "before",
    "conditions", "edits"])) ?_
  simp only [List.forall_mem_cons]
  exact ⟨readable_bound _ _, readable_bound _ _,
    .array (List.forall_mem_map.2 fun c _ => readable_condition depth c),
    .array (List.forall_mem_map.2 fun edit _ => readable_edit (depth + 1) edit), by simp⟩

theorem text_json (e : Explanation) :
    (e.text true).toList = e.toJson.indented 0 ++ ['\n'] := by
  simp [text, texts]

theorem text_json_eq_iff {e e' : Explanation} : e.text true = e'.text true ↔ e = e' := by
  constructor
  · intro h
    let _ := Listen.nearestReading
    have hlist := congrArg String.toList h
    rw [text_json, text_json] at hlist
    exact toJson_injective (Json.indented_injective Listen.isNearest_nearestReading
      (readable_toJson 0 e) (readable_toJson 0 e') (List.append_cancel_right hlist))
  · rintro rfl
    rfl

/-- Filters and edits with the same explanation as JSON have the same bounds, conditions and edits,
and so they keep the same listens and change them in the same way. -/
theorem text_json_injective {f f' : Filter} {m m' : Modifier}
    (h : (of f m).text true = (of f' m').text true) :
    f.range = f'.range ∧ f.conditions = f'.conditions ∧ m.edits = m'.edits ∧
      ∀ l, f.check l = f'.check l ∧ m.apply l = m'.apply l := by
  obtain ⟨rfl, rfl⟩ := of_injective (text_json_eq_iff.1 h)
  exact ⟨rfl, rfl, rfl, fun l => ⟨rfl, rfl⟩⟩

theorem text_json_injective_zero :
    let f : Filter := ⟨.ofBounds (some 0) none, [.noneOf "a" ["1", "2"]]⟩
    let f' : Filter := ⟨.ofBounds none none, [.noneOf "a" ["1", "2"]]⟩
    let m : Modifier := ⟨[⟨"b", ""⟩]⟩
    (of f m).text true = (of f' m).text true ∧ f.range = f'.range := by
  intro f f' m
  have htext : (of f m).text true = (of f' m).text true := rfl
  exact ⟨htext, (text_json_injective htext).1⟩

end Explanation

/-! ## The command -/

variable [RealReading]

theorem Invocation.run_explain {w : World} {configPath : Option Path} {path : Path}
    (verbosity : Nat) {s : Selection} (json : Bool) {c : Config} {f : Filter} {m : Modifier}
    (hload : w.load configPath = .ok (path, c)) (hbuilt : (s.build c w.files).result = .ok (f, m)) :
    let o := Invocation.run ⟨configPath, verbosity, .explain s json⟩ w
    let printed := w.print ((Explanation.of f m).texts json)
    o.files = w.files ∧ o.output = printed.output ∧ o.failure = printed.failure := by
  simp only [Invocation.run, hload, Command.run, withSelection, hbuilt, World.print, and_self]

theorem run_explain_json_eq {w w' : World} {configPath configPath' : Option Path}
    {path path' : Path} {verbosity verbosity' : Nat} {s s' : Selection} {c c' : Config}
    (hload : w.load configPath = .ok (path, c)) (hload' : w'.load configPath' = .ok (path', c'))
    {f f' : Filter} {m m' : Modifier} (hbuilt : (s.build c w.files).result = .ok (f, m))
    (hbuilt' : (s'.build c' w'.files).result = .ok (f', m')) :
    let o := Invocation.run ⟨configPath, verbosity, .explain s true⟩ w
    let o' := Invocation.run ⟨configPath', verbosity', .explain s' true⟩ w'
    o.failure = none → o'.failure = none → o.output = o'.output → f = f' ∧ m = m' := by
  intro o o' hdone hdone' hsame
  have hprinted {w : World} {texts : List String} (h : (w.print texts).failure = none) :
      (w.print texts).output = utf8 (String.join texts) := by
    rw [World.print_of_prints (World.prints_of_failure_print h), utf8_join]
  obtain ⟨-, houtput, hfailure⟩ : o.files = _ ∧ o.output = _ ∧ o.failure = _ :=
    Invocation.run_explain verbosity true hload hbuilt
  obtain ⟨-, houtput', hfailure'⟩ : o'.files = _ ∧ o'.output = _ ∧ o'.failure = _ :=
    Invocation.run_explain verbosity' true hload' hbuilt'
  rw [houtput, houtput', hprinted (hfailure ▸ hdone), hprinted (hfailure' ▸ hdone')] at hsame
  exact Explanation.of_injective (Explanation.text_json_eq_iff.1 (utf8_injective hsame))

end ListenQuery

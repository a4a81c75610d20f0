import ListenQuery.Filter.Build
import ListenQuery.Proofs.Filter.Check
import ListenQuery.Proofs.Json.Values

/-!
# What building a filter means

A filter is built if each of its five inputs can be read, and else the error is that of the first
one that cannot. Its conditions are those of the text, then one for each excluded and one for each
included key, in the order of the keys.
-/

namespace ListenQuery

open Cursor Number

def errorsOf {ε α : Type} : Except ε α → List ε
  | .error e => [e]
  | .ok _ => []

section

variable {ε α β : Type}

theorem bind_eq_error_iff {x : Except ε α} {f : α → Except ε β} {later : List ε} {e : ε}
    (h : ∀ a, x = .ok a → (f a = .error e ↔ later.head? = some e)) :
    (x >>= f) = .error e ↔ (errorsOf x ++ later).head? = some e := by
  cases x with
  | error e' =>
    change (Except.error e' : Except ε β) = .error e ↔ _
    simp [errorsOf]
  | ok a => exact h a rfl

end

namespace Logged

variable {ε α β : Type}

@[simp] theorem result_bind (x : Logged ε α) (f : α → Logged ε β) :
    (x >>= f).result = x.result >>= fun a => (f a).result := by
  change (Logged.bind x f).result = _
  unfold Logged.bind
  cases x.result <;> rfl

@[simp] theorem result_ofExcept (x : Except ε α) : (ofExcept x).result = x := rfl

@[simp] theorem result_log (event : Event) (x : α) :
    (log event x : Logged ε α).result = .ok x := rfl

end Logged

section

variable [RealReading]

theorem sorted_entries {s : ListSource} {entries : Fields (List String)}
    (h : s.entries = .ok entries) : entries.Sorted := by
  unfold ListSource.entries at h
  split at h
  · cases h
  · next members hread =>
    have hmembers := Json.sorted_of_read hread
    have hkeys : members.map (·.1) = entries.map (·.1) := by
      have hentries := mapM_eq_ok_iff.1 h
      clear h hread hmembers
      induction hentries with
      | nil => rfl
      | cons hentry _ ih =>
        obtain ⟨_, -, rfl⟩ := map_eq_ok_iff.1 hentry
        rw [List.map_cons, List.map_cons, ih]
    rw [Fields.Sorted, ← List.pairwise_map (f := Prod.fst)] at hmembers ⊢
    rwa [← hkeys]
  · cases h

namespace FilterOptions

def entries (source : Option ListSource) : Except ExpressionError (Fields (List String)) :=
  match source with
  | .none => .ok []
  | some source => source.entries

/-- The errors of the inputs, each read on its own, in the order in which a filter reads them. -/
def errors (o : FilterOptions) : List ExpressionError :=
  errorsOf (readFilterOption o.filter) ++ (errorsOf (readBound .after o.after) ++
    (errorsOf (readBound .before o.before) ++
      (errorsOf (entries o.excluded) ++ errorsOf (entries o.included))))

/-- The filter that the inputs describe: both bounds, zero below and the last timestamp above where
none is given, and the clauses of the text, then one condition for each excluded key and one for
each included key, in the order of the keys. -/
inductive Describes (o : FilterOptions) : Filter → Prop
  | intro {clauses : List Condition} {after before : Option Timestamp}
    {excluded included : Fields (List String)}
    (hclauses : readFilterOption o.filter = .ok clauses)
    (hafter : readBound .after o.after = .ok after)
    (hbefore : readBound .before o.before = .ok before)
    (hexcluded : entries o.excluded = .ok excluded) (horder : excluded.Sorted)
    (hincluded : entries o.included = .ok included) (horder' : included.Sorted) :
    Describes o ⟨⟨after.getD 0, before.getD Int64.maxValue⟩,
      clauses ++ excluded.map (fun (key, literals) => ⟨key, .ne, .set literals⟩) ++
        included.map (fun (key, literals) => ⟨key, .eq, .set literals⟩)⟩

theorem sorted_of_entries {source : Option ListSource} {fields : Fields (List String)}
    (h : entries source = .ok fields) : fields.Sorted := by
  cases source with
  | none =>
    cases h
    exact Fields.sorted_nil
  | some source => exact sorted_entries h

theorem result_loadList (role : ListRole) (source : Option ListSource) :
    (loadList role source).result = (entries source).map (·.map role.condition) := by
  cases source with
  | none => rfl
  | some source =>
    simp only [loadList, entries, Logged.result_bind, Logged.result_ofExcept, Logged.result_log]
    cases source.entries <;> rfl

theorem errorsOf_loadList (role : ListRole) (source : Option ListSource) :
    errorsOf (loadList role source).result = errorsOf (entries source) := by
  rw [result_loadList]
  cases entries source <;> rfl

end FilterOptions

namespace Filter

open FilterOptions

variable {o : FilterOptions} {f : Filter} {e : ExpressionError}

theorem result_build_eq_ok_iff : (build o).result = .ok f ↔ o.Describes f := by
  simp only [build, Logged.result_bind, Logged.result_ofExcept, Logged.result_log, result_loadList,
    bind_eq_ok_iff, map_eq_ok_iff, Except.ok.injEq]
  constructor
  · intro h
    obtain ⟨clauses, hclauses, after, hafter, before, hbefore, _, ⟨excluded, hexcluded, rfl⟩, _,
      ⟨included, hincluded, rfl⟩, rfl⟩ := h
    exact .intro hclauses hafter hbefore hexcluded (sorted_of_entries hexcluded) hincluded
      (sorted_of_entries hincluded)
  · intro h
    obtain ⟨hclauses, hafter, hbefore, hexcluded, -, hincluded, -⟩ := h
    exact ⟨_, hclauses, _, hafter, _, hbefore, _, ⟨_, hexcluded, rfl⟩, _, ⟨_, hincluded, rfl⟩, rfl⟩

theorem result_build_eq_error_iff : (build o).result = .error e ↔ o.errors.head? = some e := by
  simp only [build, Logged.result_bind, Logged.result_ofExcept, Logged.result_log]
  rw [errors, ← errorsOf_loadList .excluded, ← errorsOf_loadList .included]
  refine bind_eq_error_iff fun clauses _ => bind_eq_error_iff fun after _ =>
    bind_eq_error_iff fun before _ => bind_eq_error_iff fun excluded _ => ?_
  rw [← List.append_nil (errorsOf (loadList .included o.included).result)]
  refine bind_eq_error_iff fun included _ => ?_
  simp

/-- Building succeeds if and only if all inputs can be read, and fails with the error of the first
that cannot. A filter that is built checks every listen by its range and then by its conditions, up
to the first that fails or cannot be evaluated. -/
theorem build_check (o : FilterOptions) :
    ((∃ f, (build o).result = .ok f) ↔
      (∃ clauses, readFilterOption o.filter = .ok clauses) ∧
        (∃ after, readBound .after o.after = .ok after) ∧
        (∃ before, readBound .before o.before = .ok before) ∧
        (∃ excluded, entries o.excluded = .ok excluded) ∧
        ∃ included, entries o.included = .ok included) ∧
      (∀ e, (build o).result = .error e ↔ o.errors.head? = some e) ∧
      ∀ f, (build o).result = .ok f → o.Describes f ∧
        ∀ l result, f.check l = result ↔ f.Checks l result := by
  refine ⟨?_, fun e => result_build_eq_error_iff, fun f hf => ⟨result_build_eq_ok_iff.1 hf,
    fun l result => check_eq_iff⟩⟩
  simp only [result_build_eq_ok_iff]
  constructor
  · intro h
    obtain ⟨_, hclauses, hafter, hbefore, hexcluded, -, hincluded, -⟩ := h
    exact ⟨⟨_, hclauses⟩, ⟨_, hafter⟩, ⟨_, hbefore⟩, ⟨_, hexcluded⟩, ⟨_, hincluded⟩⟩
  · intro h
    obtain ⟨⟨_, hclauses⟩, ⟨_, hafter⟩, ⟨_, hbefore⟩, ⟨_, hexcluded⟩, ⟨_, hincluded⟩⟩ := h
    exact ⟨_, .intro hclauses hafter hbefore hexcluded (sorted_of_entries hexcluded) hincluded
      (sorted_of_entries hincluded)⟩

end Filter

end

end ListenQuery

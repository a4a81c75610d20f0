import ListenQuery.Proofs.Filter.Operators
import ListenQuery.Proofs.Filter.Seen

/-!
# Filters on edited listens

An edit changes the attribute that it names, and never the time. So a filter gives a listen and
the edited listen the same verdict if none of its conditions is on an attribute that is edited. An
edited attribute is a text, whatever it was before, and as such equal to the value of its last
edit.
-/

namespace ListenQuery

open Collation

namespace Modifier

def Avoids (m : Modifier) (f : Filter) : Prop :=
  ∀ edit ∈ m.edits, ∀ c ∈ f.conditions, edit.key ≠ c.key

instance (m : Modifier) (f : Filter) : Decidable (m.Avoids f) :=
  inferInstanceAs (Decidable (∀ edit ∈ m.edits, ∀ c ∈ f.conditions, edit.key ≠ c.key))

variable {m : Modifier} {f : Filter}

theorem get_apply_of_avoids (h : m.Avoids f) (l : Listen) {c : Condition} (hc : c ∈ f.conditions) :
    (m.apply l).get c.key = l.get c.key := by
  have hnone : m.lastEdit? c.key = none :=
    lastEdit?_eq_none_iff.2 fun edit hedit => h edit hedit c hc
  rw [get_apply, hnone, Option.map_none, Option.getD_none]

theorem get_apply_of_lastEdit? {key value : String} (h : m.lastEdit? key = some value)
    (l : Listen) : (m.apply l).get key = .text value := by
  rw [get_apply, h, Option.map_some, Option.getD_some]

end Modifier

theorem Value.evaluate_text_self (key s : String) (operator : Operator) (h : operator ≠ .xor) :
    evaluate ⟨key, operator, .literal s⟩ (.text s) =
      .ok (.ofBool (operator.accepts (some .eq))) := by
  have horder : (Value.text s).compareWith s = .ok (some .eq) := by
    rw [compareWith, collate_self]
  have hscalar : (Value.text s).IsScalar := ⟨rfl, by simp⟩
  exact evaluate_literal hscalar horder key operator h

/-- Edits do not change the verdict of a filter that has no condition on an edited attribute. Where
an attribute is edited, the conditions that compare it with the value of its last edit hold as they
do for equal texts. -/
theorem Modifier.check_edited (m : Modifier) (l : Listen) :
    (∀ f : Filter, m.Avoids f → f.check (m.apply l) = f.check l) ∧
    ∀ key value, m.lastEdit? key = some value →
      let c (operator : Operator) : Condition := ⟨key, operator, .literal value⟩
      let v := (m.apply l).get key
      (c .eq).Passes v ∧ (c .le).Passes v ∧ (c .ge).Passes v ∧
        (c .ne).Fails v ∧ (c .lt).Fails v ∧ (c .gt).Fails v := by
  constructor
  · intro f havoids
    refine Filter.check_congr (agreesOutside_apply m l).listenedAt fun c hc => ?_
    rw [get_apply_of_avoids havoids l hc]
  · intro key value hlast c v
    have hv : v = .text value := get_apply_of_lastEdit? hlast l
    have heval (operator : Operator) (h : operator ≠ .xor) :
        evaluate (c operator) v = .ok (.ofBool (operator.accepts (some .eq))) := by
      rw [hv]
      exact Value.evaluate_text_self key value operator h
    exact ⟨heval .eq nofun, heval .le nofun, heval .ge nofun, heval .ne nofun, heval .lt nofun,
      heval .gt nofun⟩

theorem Modifier.check_edited_rating :
    let l := ((Listen.ofNames 5 "A" "T").insertInfo "loved" (.bool true)).insertInfo "rating"
      (.object [])
    let m : Modifier := ⟨[⟨"rating", "low"⟩, ⟨"listened_at", "0"⟩, ⟨"rating", "high"⟩]⟩
    let f : Filter := ⟨⟨4, 6⟩, [⟨"loved", .eq, .literal "1"⟩]⟩
    m.Avoids f ∧ f.check l = .ok ⟨true, []⟩ ∧ f.check (m.apply l) = .ok ⟨true, []⟩ ∧
      m.lastEdit? "rating" = some "high" ∧
      evaluate ⟨"rating", .ge, .literal "high"⟩ (l.get "rating") =
        .error (.unsupportedValue "rating" .object) ∧
      Condition.Passes ⟨"rating", .ge, .literal "high"⟩ ((m.apply l).get "rating") := by
  intro l m f
  have havoids : m.Avoids f := by decide
  have hcheck : f.check l = .ok ⟨true, []⟩ := by decide +kernel
  have hlast : m.lastEdit? "rating" = some "high" := by decide
  obtain ⟨hsame, hedited⟩ := m.check_edited l
  exact ⟨havoids, hcheck, (hsame f havoids).trans hcheck, hlast, rfl,
    (hedited "rating" "high" hlast).2.2.1⟩

end ListenQuery

import ListenQuery.Config.Basic
import ListenQuery.Proofs.Json.Typed

/-!
# Configurations read back

A configuration is read back from its text, whatever its presets and settings hold.
-/

namespace ListenQuery

open Cursor Number

namespace Cursor

variable {α : Type} {x : α}

variable [RealReading] {expected : String} {depth : Nat} {body listed : Nat → Reader α}

theorem skipsSpace_bracedOrListed (expected : String) (depth : Nat)
    (body listed : Nat → Reader α) : SkipsSpace (bracedOrListed expected depth body listed) := by
  intro cur
  simp only [bracedOrListed, skipSpace_skipSpace]

theorem reads_bracedOrListed {text : List Char}
    (hbody : ∀ rest p, ∃ p', body depth ⟨text ++ rest, p⟩ = .ok (x, ⟨rest, p'⟩)) :
    Reads (bracedOrListed expected (depth + 1) body listed) ('{' :: text) x := by
  intro rest p hends
  obtain ⟨p', hread⟩ := reads_braced expected hbody rest p hends
  have hspace : isSpace '{' = false := rfl
  refine ⟨p', ?_⟩
  rw [List.cons_append] at hread ⊢
  simp only [bracedOrListed, skipSpace_cons _ _ hspace]
  exact hread

end Cursor

theorem pathMember_eq (name : String) (path : Option Path) :
    pathMember name path = member? name .string path := by
  cases path <;> rfl

section

variable [RealReading]

theorem reads_path (layout : Layout) (p : Path) :
    Reads pathReader (layout.gap ++ quoted p) (some p) :=
  (reads_optional_text "path string" p).append_spaces (skipsSpace_optional _) layout.gap_spaces

theorem PartialSettings.leads_toJson (s : Settings) (depth : Nat) :
    Leads (.indented depth) member empty
      (pathMember "exclude" s.excluded ++ pathMember "include" s.included ++
        [("log", .string s.log)])
      ⟨s.excluded.map some, s.included.map some, some s.log⟩ := by
  obtain ⟨excluded, included, log⟩ := s
  have hexcluded : Leads (.indented depth) member empty (pathMember "exclude" excluded)
      ⟨excluded.map some, none, none⟩ := by
    rw [pathMember_eq]
    refine leads_member? (mk · none none) excluded fun p _ => ?_
    exact (reads_onlyOnce "exclude" (reads_path (.indented depth) p)).map
      fun x => mk (some x) none none
  have hincluded : Leads (.indented depth) member ⟨excluded.map some, none, none⟩
      (pathMember "include" included) ⟨excluded.map some, included.map some, none⟩ := by
    rw [pathMember_eq]
    refine leads_member? (mk (excluded.map some) · none) included fun p _ => ?_
    exact (reads_onlyOnce "include" (reads_path (.indented depth) p)).map
      fun x => mk (excluded.map some) (some x) none
  have hlog : Leads (.indented depth) member ⟨excluded.map some, included.map some, none⟩
      [("log", .string log)] ⟨excluded.map some, included.map some, some log⟩ := by
    have hread := (reads_text "a string" log).append_spaces (skipsSpace_text "a string")
      (Layout.indented depth).gap_spaces
    refine .cons ?_ (.nil _)
    exact (reads_onlyOnce "log" hread).map
      fun x => mk (excluded.map some) (included.map some) (some x)
  exact (hexcluded.append hincluded).append hlog

theorem Settings.reads_toJson (s : Settings) (depth textDepth : Nat) :
    Reads (Settings.reader (depth + 1)) (s.toJson.indented textDepth) s := by
  rw [toJson, Layout.indented_object]
  refine reads_bracedOrListed fun rest p => ?_
  obtain ⟨p', hmembers⟩ := members_layout (PartialSettings.leads_toJson s textDepth) rest p
  refine ⟨p', ?_⟩
  rw [hmembers]
  obtain ⟨excluded, included, log⟩ := s
  cases excluded <;> cases included <;> rfl

theorem PartialConfig.leads_toJson (c : Config) (depth textDepth : Nat) :
    Leads (.indented textDepth) (member (depth + 1)) empty
      [("presets", .object (c.presets.toFields.map fun (name, text) => (name, .string text))),
        ("settings", c.settings.toJson)]
      ⟨some c.presets, some c.settings⟩ := by
  obtain ⟨presets, settings⟩ := c
  have hspaces := (Layout.indented textDepth).gap_spaces
  have hpresets : Leads (.indented textDepth) (member (depth + 1)) empty
      [("presets", .object (presets.toFields.map fun (name, text) => (name, .string text)))]
      ⟨some presets, none⟩ := by
    have hread :=
      reads_texts "a string" depth (Layout.indented (textDepth + 1)) (fun _ => rfl) presets
    rw [← Layout.indented_object] at hread
    refine .cons ?_ (.nil _)
    exact (reads_onlyOnce "presets" (hread.append_spaces (skipsSpace_braced _ _ _) hspaces)).map
      fun x => mk (some x) none
  have hsettings : Leads (.indented textDepth) (member (depth + 1)) ⟨some presets, none⟩
      [("settings", settings.toJson)] ⟨some presets, some settings⟩ := by
    have hread := settings.reads_toJson depth (textDepth + 1)
    refine .cons ?_ (.nil _)
    exact (reads_onlyOnce "settings"
      (hread.append_spaces (skipsSpace_bracedOrListed _ _ _ _) hspaces)).map
        fun x => mk (some presets) (some x)
  exact hpresets.append hsettings

theorem Config.reads_toJson (c : Config) (depth textDepth : Nat) :
    Reads (Config.reader (depth + 2)) (c.toJson.indented textDepth) c := by
  rw [toJson, Layout.indented_object]
  refine reads_bracedOrListed fun rest p => ?_
  obtain ⟨p', hmembers⟩ := members_layout (PartialConfig.leads_toJson c depth textDepth) rest p
  exact ⟨p', by rw [hmembers]; rfl⟩

theorem Config.read_text (c : Config) : Config.read c.text = .ok c := by
  obtain ⟨p', hread⟩ := c.reads_toJson 125 0 [] ⟨1, 0⟩ endsValue_nil
  rw [List.append_nil] at hread
  have hstart : start c.text = ⟨c.toJson.indented 0, ⟨1, 0⟩⟩ := by simp [start, text]
  rw [Config.read, hstart]
  exact bind_eq_ok_iff.2 ⟨_, hread, rfl⟩

end

end ListenQuery

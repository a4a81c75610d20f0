import ListenQuery.Proofs.Text.Utf8
import Mathlib.Data.String.Basic

/-!
# The order of texts and the order of their bytes

Texts are ordered by their characters and so are their bytes: the encoding of a character is less
than that of a greater one at the first byte in which the two differ.
-/

namespace ListenQuery

theorem utf8EncodeChar_append_lt {c d : Char} (h : c < d) (rest rest' : List UInt8) :
    String.utf8EncodeChar c ++ rest < String.utf8EncodeChar d ++ rest' := by
  have hlt : c.val.toNat < d.val.toNat := h
  have hd : d.val.toNat < 0x110000 := by
    rcases d.valid with hd | ⟨-, hd⟩ <;> omega
  -- Six bits go into each byte behind the first one.
  have hdigits (n : Nat) : n / 4096 = n / 64 / 64 ∧ n / 262144 = n / 64 / 64 / 64 := by omega
  unfold String.utf8EncodeChar
  dsimp only
  split_ifs
  all_goals
    simp only [List.cons_append, List.nil_append, List.cons_lt_cons_iff, UInt8.lt_iff_toNat_lt,
      ← UInt8.toNat_inj, UInt8.toNat_ofNat', hdigits]
    omega

theorem utf8Of_lt_of_lt {cs ds : List Char} (h : cs < ds) : utf8Of cs < utf8Of ds := by
  induction h with
  | @nil d ds =>
    have hne : utf8Of (d :: ds) ≠ [] := by simp [utf8Of, String.utf8EncodeChar_ne_nil]
    obtain ⟨b, bytes, hbytes⟩ := List.exists_cons_of_ne_nil hne
    rw [hbytes]
    exact List.nil_lt_cons b bytes
  | rel hcd => exact utf8EncodeChar_append_lt hcd _ _
  | cons _ ih => exact List.append_left_lt ih

theorem utf8Of_lt_iff {s t : String} : utf8Of s.toList < utf8Of t.toList ↔ s < t := by
  rw [String.lt_iff_toList_lt]
  refine ⟨fun h => ?_, utf8Of_lt_of_lt⟩
  rcases lt_trichotomy s.toList t.toList with hlt | heq | hgt
  · exact hlt
  · exact absurd (heq ▸ h) (List.lt_irrefl _)
  · exact absurd (utf8Of_lt_of_lt hgt) (List.lt_asymm h)

end ListenQuery

import ListenQuery.Listen.Stream
import Mathlib.Tactic.SplitIfs

/-!
# Text as bytes

The bytes of a text are decoded to that text, and a byte below 128 is the character of that number.
-/

namespace ListenQuery

def utf8Of (cs : List Char) : List UInt8 := cs.flatMap String.utf8EncodeChar

theorem byteArray_toList_loop (bytes : ByteArray) (i : Nat) (read : List UInt8) :
    ByteArray.toList.loop bytes i read = read.reverse ++ bytes.data.toList.drop i := by
  fun_induction ByteArray.toList.loop bytes i read with
  | case1 i read hi ih =>
    have hlength : i < bytes.data.toList.length := by simpa using hi
    have hbyte : bytes.get! i = bytes.data.toList[i] := by simp [ByteArray.get!, hi]
    rw [ih, hbyte, List.reverse_cons, List.append_assoc, List.singleton_append,
      List.getElem_cons_drop]
  | case2 i read hi =>
    have hlength : bytes.data.toList.length ≤ i := by simpa using Nat.not_lt.1 hi
    rw [List.drop_eq_nil_of_le hlength, List.append_nil]

theorem toList_toUTF8 (s : String) : s.toUTF8.toList = utf8Of s.toList := by
  have hencode : s.toUTF8 = s.toList.utf8Encode := String.utf8Encode_toList.symm
  rw [ByteArray.toList, byteArray_toList_loop, hencode, List.utf8Encode,
    List.toList_data_toByteArray]
  rfl

theorem decodeUtf8_utf8Of (s : String) : Listen.decodeUtf8 (utf8Of s.toList) = some s := by
  have hbytes : (⟨(utf8Of s.toList).toArray⟩ : ByteArray) = s.toUTF8 := by
    apply ByteArray.ext
    apply Array.toList_inj.1
    rw [← toList_toUTF8, ByteArray.toList, byteArray_toList_loop]
    simp
  rw [Listen.decodeUtf8, hbytes, String.toUTF8_eq_toByteArray, String.fromUTF8?,
    dif_pos s.isValidUTF8]
  rfl

theorem decodeUtf8_eq_some_iff {bytes : List UInt8} {s : String} :
    Listen.decodeUtf8 bytes = some s ↔ bytes = utf8Of s.toList := by
  constructor
  · intro h
    have hbytes : s.toUTF8 = ⟨bytes.toArray⟩ := by
      simp only [Listen.decodeUtf8, String.fromUTF8?, Option.dite_none_right_eq_some,
        Option.some.injEq] at h
      obtain ⟨hvalid, rfl⟩ := h
      rfl
    rw [← toList_toUTF8, hbytes, ByteArray.toList, byteArray_toList_loop]
    simp
  · rintro rfl
    exact decodeUtf8_utf8Of s

theorem toNat_of_mem_utf8EncodeChar {c : Char} {b : UInt8} (h : b ∈ String.utf8EncodeChar c)
    (hb : b.toNat < 128) : b.toNat = c.toNat := by
  unfold String.utf8EncodeChar at h
  dsimp only at h
  split_ifs at h
  all_goals simp only [List.mem_cons, List.not_mem_nil, or_false] at h
  · subst h
    simp only [UInt8.toNat_ofNat'] at hb ⊢
    exact Nat.mod_eq_of_lt (by omega)
  · rcases h with rfl | rfl
    all_goals
      simp only [UInt8.toNat_ofNat'] at hb
      omega
  · rcases h with rfl | rfl | rfl
    all_goals
      simp only [UInt8.toNat_ofNat'] at hb
      omega
  · rcases h with rfl | rfl | rfl | rfl
    all_goals
      simp only [UInt8.toNat_ofNat'] at hb
      omega

end ListenQuery

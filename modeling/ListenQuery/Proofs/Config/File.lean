import ListenQuery.Config.File
import ListenQuery.Proofs.Config.Text
import ListenQuery.Proofs.Files.Sink
import ListenQuery.Proofs.Files.System
import ListenQuery.Proofs.Text.Utf8

/-!
# Configurations kept in files

A text that has been written is read again from its file, and so a configuration that has been
saved is loaded again as it was.
-/

namespace ListenQuery

open Number

namespace FileSystem

variable {fs files : FileSystem} {p : Path} {text : String}

theorem readText_of_readBytes (h : fs.readBytes p = .ok text.toUTF8.toList) :
    fs.readText p = .ok text := by
  have hdecode := decodeUtf8_utf8Of text
  rw [Listen.decodeUtf8, ← toList_toUTF8] at hdecode
  rw [readText, h, ok_bind, hdecode]

theorem readText_of_write (h : (fs.write p text.toUTF8.toList).result = .ok ()) :
    (fs.write p text.toUTF8.toList).now.readText p = .ok text := by
  unfold write at h ⊢
  split at h
  · cases h
  next place created hcreate =>
  obtain ⟨-, rfl⟩ := create_eq_ok hcreate
  dsimp only at h ⊢
  split at h
  · cases h
  next hfault =>
  rw [set_set, Sink.through_of_fault? hfault]
  exact readText_of_readBytes (readBytes_set (writablePlace_of_create hcreate))

theorem pathExists_of_readText (h : fs.readText p = .ok text) : fs.pathExists p = true := by
  obtain ⟨bytes, hbytes, -⟩ := bind_eq_ok_iff.1 h
  obtain ⟨entry, hresolve, -⟩ := bind_eq_ok_iff.1 hbytes
  rw [pathExists, hresolve]
  rfl

end FileSystem

namespace Config

variable {c : Config} {fs : FileSystem} {path : Path}

theorem save_eq_ok (h : (c.save fs path).result = .ok ()) :
    ∃ prepared : FileSystem,
      (c.save fs path).now = (prepared.write path c.text.toUTF8.toList).now ∧
        (prepared.write path c.text.toUTF8.toList).result = .ok () := by
  unfold save at h ⊢
  dsimp only at h ⊢
  split at h
  · cases h
  · exact ⟨_, rfl, mapError_eq_ok_iff.1 h⟩

variable [RealReading]

theorem load_of_readText {text : String} (htext : fs.readText path = .ok text)
    (hread : Config.read text = .ok c) : load fs path = .ok c := by
  simp [load, FileSystem.pathExists_of_readText htext, htext, hread, Except.mapError]

theorem load_of_save (h : (c.save fs path).result = .ok ()) :
    load (c.save fs path).now path = .ok c := by
  obtain ⟨prepared, hnow, hwritten⟩ := save_eq_ok h
  rw [hnow]
  exact load_of_readText (FileSystem.readText_of_write hwritten) (read_text c)

end Config

end ListenQuery

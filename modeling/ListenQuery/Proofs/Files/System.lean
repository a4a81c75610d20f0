import ListenQuery.Files.System
import ListenQuery.Proofs.Results

/-!
# Files and places

What is set at a place stands there, and everything else stays. A file is created at a place that
is no directory, what a path leads to stands at its place, and what has been written at a path is
read there.
-/

namespace ListenQuery.FileSystem

variable {fs files : FileSystem} {p : Path} {place other : Place} {node : Node}

theorem lookup_filter_of_ne (entries : List (Place × Node)) (h : other ≠ place) :
    (entries.filter (·.1 ≠ place)).lookup other = entries.lookup other := by
  induction entries with
  | nil => rfl
  | cons entry entries ih =>
    obtain ⟨name, node⟩ := entry
    by_cases hname : name = place
    · have hother : (other == name) = false := by simpa [hname] using h
      rw [List.filter_cons_of_neg (by simpa using hname), ih, List.lookup_cons, hother]
    · rw [List.filter_cons_of_pos (by simpa using hname), List.lookup_cons, List.lookup_cons, ih]

theorem node?_set_of_ne (h : other ≠ place) : (fs.set place node).node? other = fs.node? other := by
  have hother : (other == place) = false := by simpa using h
  simp only [node?, set, List.lookup_cons, hother, lookup_filter_of_ne fs.entries h]

theorem node?_set_self (h : fs.node? place ≠ some .directory) :
    (fs.set place node).node? place = some node := by
  unfold node? at h ⊢
  split at h
  · exact absurd rfl h
  · next hplace => simp [hplace, set]

theorem set_set (first second : Node) :
    (fs.set place first).set place second = fs.set place second := by
  simp [set]

theorem writablePlace_eq_ok (h : fs.writablePlace p = .ok place) :
    fs.placeOf p = .ok place ∧ p.asksForDirectory = false ∧ fs.node? place ≠ some .directory := by
  obtain ⟨place', hplace, hwritable⟩ := bind_eq_ok_iff.1 h
  split at hwritable
  · cases hwritable
  · next hasks =>
    split at hwritable
    · cases hwritable
    · next hnot =>
      obtain rfl := Except.ok.inj hwritable
      exact ⟨hplace, by simpa using hasks, hnot⟩

theorem create_eq_ok (h : fs.create p = .ok (place, files)) :
    fs.node? place ≠ some .directory ∧ files = fs.set place (.file []) := by
  obtain ⟨place', hplace, hset⟩ := bind_eq_ok_iff.1 h
  obtain ⟨rfl, rfl⟩ := Prod.mk.inj (Except.ok.inj hset)
  exact ⟨(writablePlace_eq_ok hplace).2.2, rfl⟩

theorem writablePlace_of_create (h : fs.create p = .ok (place, files)) :
    fs.writablePlace p = .ok place := by
  obtain ⟨place', hplace, hset⟩ := bind_eq_ok_iff.1 h
  obtain ⟨rfl, rfl⟩ := Prod.mk.inj (Except.ok.inj hset)
  exact hplace

theorem placeOf_of_resolve (h : fs.resolve p = .ok (place, node)) :
    fs.placeOf p = .ok place ∧ fs.node? place = some node := by
  obtain ⟨place', hplace, hnode⟩ := bind_eq_ok_iff.1 h
  split at hnode
  · cases hnode
  · next hfile =>
    split at hnode
    · cases hnode
    · obtain ⟨rfl, rfl⟩ := Prod.mk.inj (Except.ok.inj hnode)
      exact ⟨hplace, hfile⟩
  · next hdirectory =>
    obtain ⟨rfl, rfl⟩ := Prod.mk.inj (Except.ok.inj hnode)
    exact ⟨hplace, hdirectory⟩

theorem node?_of_resolve (h : fs.resolve p = .ok (place, node)) : fs.node? place = some node :=
  (placeOf_of_resolve h).2

theorem requireDirectory_eq_ok_iff :
    fs.requireDirectory place = .ok () ↔ fs.node? place = some .directory := by
  unfold requireDirectory
  split <;> simp [*]

/-! A file may be set where there is no directory: paths lead where they have led before. -/

section

variable {content : List UInt8}

theorem requireDirectory_set (hplace : fs.node? place ≠ some .directory)
    (h : fs.requireDirectory other = .ok ()) :
    (fs.set place node).requireDirectory other = .ok () := by
  rw [requireDirectory_eq_ok_iff] at h ⊢
  have hother : other ≠ place := by
    rintro rfl
    exact hplace h
  rw [node?_set_of_ne hother, h]

theorem follow_set {names : List String} {start reached : Place}
    (hplace : fs.node? place ≠ some .directory) (h : fs.follow start names = .ok reached) :
    (fs.set place node).follow start names = .ok reached := by
  induction names generalizing start with
  | nil => exact h
  | cons name rest ih =>
    obtain ⟨⟨⟩, hstart, hrest⟩ := bind_eq_ok_iff.1 h
    rw [follow, requireDirectory_set hplace hstart, ok_bind]
    split at hrest
    · cases hrest
    · next hname =>
      rw [if_neg hname]
      exact ih hrest

theorem placeOf_set {reached : Place} (hplace : fs.node? place ≠ some .directory)
    (h : fs.placeOf p = .ok reached) : (fs.set place node).placeOf p = .ok reached := by
  unfold placeOf at h ⊢
  split at h
  · cases h
  split at h
  · cases h
  split at h
  · cases h
  next hnul hempty hlong =>
  rw [if_neg hnul, if_neg hempty, if_neg hlong]
  obtain ⟨place', hfollow, hdot⟩ := bind_eq_ok_iff.1 h
  rw [follow_set hplace hfollow, ok_bind]
  split at hdot
  · next hends =>
    obtain ⟨⟨⟩, hdirectory, hreached⟩ := bind_eq_ok_iff.1 hdot
    rw [if_pos hends, requireDirectory_set hplace hdirectory, ok_bind]
    exact hreached
  · next hends =>
    rw [if_neg hends]
    exact hdot

theorem readBytes_set (h : fs.writablePlace p = .ok place) :
    (fs.set place (.file content)).readBytes p = .ok content := by
  obtain ⟨hplace, hasks, hnot⟩ := writablePlace_eq_ok h
  have hresolve : (fs.set place (.file content)).resolve p = .ok (place, .file content) := by
    rw [resolve, placeOf_set hnot hplace, ok_bind, node?_set_self hnot]
    simp [hasks]
  rw [readBytes, hresolve, ok_bind]

end

end ListenQuery.FileSystem

import ListenQuery.Modifier
import ListenQuery.Proofs.Listen.Readable

/-!
# Edited listens

An attribute that is set has the text it was given, and every other one is as before. A modifier
comes to the last edit of each key: what stands before it leaves no trace, edits of different keys
may change places, and a second application changes nothing.
-/

namespace ListenQuery

/-! ## Primary attributes -/

def PrimaryKey.name : PrimaryKey → String
  | .artist => "artist_name"
  | .track => "track_name"
  | .release => "release_name"

@[simp] theorem PrimaryKey.ofName_name (k : PrimaryKey) : ofName k.name = some k := by
  cases k <;> rfl

theorem PrimaryKey.name_of_ofName {key : String} {k : PrimaryKey} (h : ofName key = some k) :
    key = k.name := by
  unfold ofName at h
  split_ifs at h with hartist htrack hrelease
  all_goals
    obtain rfl := Option.some.inj h
    assumption

theorem PrimaryKey.ofName_eq_none_iff {key : String} :
    ofName key = none ↔ ∀ k : PrimaryKey, key ≠ k.name := by
  constructor
  · rintro h k rfl
    rw [ofName_name] at h
    cases h
  · intro h
    cases hkey : ofName key with
    | none => rfl
    | some k => exact absurd (name_of_ofName hkey) (h k)

theorem TrackMetadata.primary_setPrimary (t : TrackMetadata) (value : String) (k q : PrimaryKey) :
    (t.setPrimary value k).primary q = if q = k then some value else t.primary q := by
  cases k <;> cases q <;> rfl

namespace Listen

variable {l l' l'' : Listen} {key value : String}

def info? (l : Listen) (name : String) : Option Json :=
  l.track.additionalInfo.bind (·.get? name)

/-- Everything that no attribute is stored in is the same. -/
structure AgreesOutside (l l' : Listen) : Prop where
  listenedAt : l'.listenedAt = l.listenedAt
  insertedAt : l'.insertedAt = l.insertedAt
  userName : l'.userName = l.userName
  recordingMsid : l'.recordingMsid = l.recordingMsid
  extra : l'.extra = l.extra
  trackExtra : l'.track.extra = l.track.extra

theorem AgreesOutside.refl (l : Listen) : l.AgreesOutside l := ⟨rfl, rfl, rfl, rfl, rfl, rfl⟩

theorem AgreesOutside.symm (h : l.AgreesOutside l') : l'.AgreesOutside l :=
  ⟨h.listenedAt.symm, h.insertedAt.symm, h.userName.symm, h.recordingMsid.symm, h.extra.symm,
    h.trackExtra.symm⟩

theorem AgreesOutside.trans (h : l.AgreesOutside l') (h' : l'.AgreesOutside l'') :
    l.AgreesOutside l'' :=
  ⟨h'.listenedAt.trans h.listenedAt, h'.insertedAt.trans h.insertedAt,
    h'.userName.trans h.userName, h'.recordingMsid.trans h.recordingMsid, h'.extra.trans h.extra,
    h'.trackExtra.trans h.trackExtra⟩

theorem eq_of_agreesOutside (hrest : l.AgreesOutside l')
    (hprimary : ∀ k, l'.track.primary k = l.track.primary k)
    (hnone : l'.track.additionalInfo = none ↔ l.track.additionalInfo = none)
    (hinfo : ∀ name, l'.info? name = l.info? name) : l' = l := by
  obtain ⟨hlistened, hinserted, huser, hmsid, hextra, htrackExtra⟩ := hrest
  have hartist := Option.some.inj (hprimary .artist)
  have htrack := Option.some.inj (hprimary .track)
  have hrelease := hprimary .release
  obtain ⟨listened, inserted, user, msid, ⟨artist, track, release, info, trackExtra⟩, extra⟩ := l
  obtain ⟨listened', inserted', user', msid', ⟨artist', track', release', info', trackExtra'⟩,
    extra'⟩ := l'
  have hsame : info' = info := by
    cases info with
    | none => exact hnone.2 rfl
    | some fields =>
      cases info' with
      | none => exact (hnone.1 rfl).symm
      | some fields' =>
        exact congrArg some (SortedFields.ext_get? hinfo)
  simp_all [TrackMetadata.primary]

/-! ## One entry of the additional information -/

theorem primary_insertInfo (l : Listen) (key : String) (value : Json) (k : String) :
    (l.insertInfo key value).primary k = l.primary k := by
  unfold primary
  cases PrimaryKey.ofName k with
  | none => rfl
  | some q => cases q <;> rfl

theorem info?_insertInfo (l : Listen) (key : String) (value : Json) (name : String) :
    (l.insertInfo key value).info? name = if name = key then some value else l.info? name := by
  change ((l.track.additionalInfo.getD .empty).insert key value).get? name = _
  rw [SortedFields.get?_insert]
  cases hinfo : l.track.additionalInfo <;> simp [info?, hinfo]

theorem metadata_eq (l : Listen) (name : String) :
    l.metadata name = (l.info? name).map .ofJson := rfl

theorem get_insertInfo (l : Listen) (key : String) (value : Json) (k : String) :
    (l.insertInfo key value).get k =
      if k = key then (l.primary k).getD (.ofJson value) else l.get k := by
  rw [get, primary_insertInfo, metadata_eq, info?_insertInfo]
  by_cases hk : k = key
  · rw [if_pos hk, if_pos hk]
    cases l.primary k <;> rfl
  · rw [if_neg hk, if_neg hk]
    rfl

/-! ## One attribute set -/

theorem set_primary (l : Listen) (k : PrimaryKey) (value : String) :
    l.set k.name value = { l with track := l.track.setPrimary value k } := by
  simp [set, setPrimary?]

theorem set_metadata (l : Listen) (hkey : PrimaryKey.ofName key = none) (value : String) :
    l.set key value = l.insertInfo key (.string value) := by
  simp [set, setPrimary?, hkey, setMetadata]

theorem primary_set (l : Listen) (key value : String) (k : PrimaryKey) :
    (l.set key value).track.primary k =
      if key = k.name then some value else l.track.primary k := by
  cases hkey : PrimaryKey.ofName key with
  | none =>
    rw [set_metadata l hkey, if_neg (PrimaryKey.ofName_eq_none_iff.1 hkey k)]
    cases k <;> rfl
  | some q =>
    obtain rfl := PrimaryKey.name_of_ofName hkey
    rw [set_primary, TrackMetadata.primary_setPrimary]
    cases k <;> cases q <;> rfl

theorem info?_set (l : Listen) (key value name : String) :
    (l.set key value).info? name =
      if PrimaryKey.ofName key = none ∧ key = name then some (.string value) else l.info? name := by
  cases hkey : PrimaryKey.ofName key with
  | none =>
    rw [set_metadata l hkey, info?_insertInfo]
    simp [eq_comm]
  | some k =>
    obtain rfl := PrimaryKey.name_of_ofName hkey
    rw [set_primary]
    cases k <;> rfl

theorem get_set (l : Listen) (key value k : String) :
    (l.set key value).get k = if key = k then .text value else l.get k := by
  have hget (l : Listen) : l.get k =
      ((((PrimaryKey.ofName k).bind l.track.primary).map .text).or
        ((l.info? k).map .ofJson)).getD .absent := rfl
  rw [hget, hget, info?_set]
  cases hk : PrimaryKey.ofName k with
  | none =>
    by_cases hkey : key = k
    · subst hkey
      simp [hk, Value.ofJson]
    · simp [hkey]
  | some q =>
    obtain rfl := PrimaryKey.name_of_ofName hk
    by_cases hkey : key = q.name
    · simp [hkey, primary_set]
    · simp [hkey, primary_set]

theorem agreesOutside_set (l : Listen) (key value : String) :
    l.AgreesOutside (l.set key value) := by
  cases hkey : PrimaryKey.ofName key with
  | none =>
    rw [set_metadata l hkey]
    exact ⟨rfl, rfl, rfl, rfl, rfl, rfl⟩
  | some k =>
    obtain rfl := PrimaryKey.name_of_ofName hkey
    rw [set_primary]
    cases k <;> exact ⟨rfl, rfl, rfl, rfl, rfl, rfl⟩

theorem additionalInfo_set_eq_none_iff (l : Listen) (key value : String) :
    (l.set key value).track.additionalInfo = none ↔
      l.track.additionalInfo = none ∧ PrimaryKey.ofName key ≠ none := by
  cases hkey : PrimaryKey.ofName key with
  | none =>
    rw [set_metadata l hkey]
    simp [insertInfo, TrackMetadata.insertInfo]
  | some k =>
    obtain rfl := PrimaryKey.name_of_ofName hkey
    rw [set_primary]
    cases k <;> simp [TrackMetadata.setPrimary]

end Listen

/-! ## All edits of a modifier -/

namespace Modifier

open Listen

def lastEdit? (m : Modifier) (key : String) : Option String :=
  (m.edits.filter (·.key = key)).getLast?.map (·.value)

variable {m m' : Modifier} {l : Listen} {edit : Edit} {edits : List Edit} {key : String}

theorem lastEdit?_cons :
    lastEdit? ⟨edit :: edits⟩ key =
      (lastEdit? ⟨edits⟩ key).or (if edit.key = key then some edit.value else none) := by
  unfold lastEdit?
  by_cases hkey : edit.key = key
  · simp only [List.filter_cons, hkey, decide_true, if_true, List.getLast?_cons]
    cases (edits.filter (·.key = key)).getLast? <;> rfl
  · simp [hkey]

theorem lastEdit?_append {more : List Edit} :
    lastEdit? ⟨edits ++ more⟩ key = (lastEdit? ⟨more⟩ key).or (lastEdit? ⟨edits⟩ key) := by
  simp only [lastEdit?, List.filter_append, List.getLast?_append]
  cases (more.filter (·.key = key)).getLast? <;> rfl

theorem lastEdit?_eq_none_iff : m.lastEdit? key = none ↔ ∀ edit ∈ m.edits, edit.key ≠ key := by
  simp [lastEdit?]

theorem apply_cons : apply ⟨edit :: edits⟩ l = apply ⟨edits⟩ (l.set edit.key edit.value) := rfl

theorem apply_append {more : List Edit} :
    apply ⟨edits ++ more⟩ l = apply ⟨more⟩ (apply ⟨edits⟩ l) := List.foldl_append

theorem get_apply (m : Modifier) (l : Listen) (key : String) :
    (m.apply l).get key = ((m.lastEdit? key).map .text).getD (l.get key) := by
  obtain ⟨edits⟩ := m
  induction edits generalizing l with
  | nil => rfl
  | cons edit edits ih =>
    rw [apply_cons, ih, get_set, lastEdit?_cons]
    cases lastEdit? ⟨edits⟩ key with
    | none => by_cases hkey : edit.key = key <;> simp [hkey]
    | some value => rfl

theorem primary_apply (m : Modifier) (l : Listen) (k : PrimaryKey) :
    (m.apply l).track.primary k = (m.lastEdit? k.name).or (l.track.primary k) := by
  obtain ⟨edits⟩ := m
  induction edits generalizing l with
  | nil => rfl
  | cons edit edits ih =>
    rw [apply_cons, ih, primary_set, lastEdit?_cons, Option.or_assoc]
    by_cases hkey : edit.key = k.name <;> simp [hkey]

theorem info?_apply (m : Modifier) (l : Listen) (name : String) :
    (m.apply l).info? name =
      if PrimaryKey.ofName name = none then ((m.lastEdit? name).map .string).or (l.info? name)
      else l.info? name := by
  obtain ⟨edits⟩ := m
  induction edits generalizing l with
  | nil => simp [apply, lastEdit?]
  | cons edit edits ih =>
    rw [apply_cons, ih, info?_set, lastEdit?_cons]
    by_cases hkey : edit.key = name
    · subst hkey
      cases lastEdit? ⟨edits⟩ edit.key <;> by_cases hname : PrimaryKey.ofName edit.key = none <;>
        simp [hname]
    · simp [hkey]

theorem agreesOutside_apply (m : Modifier) (l : Listen) : l.AgreesOutside (m.apply l) := by
  obtain ⟨edits⟩ := m
  induction edits generalizing l with
  | nil => exact .refl l
  | cons edit edits ih => exact (agreesOutside_set l edit.key edit.value).trans (ih _)

theorem additionalInfo_apply_eq_none_iff (m : Modifier) (l : Listen) :
    (m.apply l).track.additionalInfo = none ↔
      l.track.additionalInfo = none ∧ ∀ edit ∈ m.edits, PrimaryKey.ofName edit.key ≠ none := by
  obtain ⟨edits⟩ := m
  induction edits generalizing l with
  | nil => simp [apply]
  | cons edit edits ih =>
    rw [apply_cons, ih, additionalInfo_set_eq_none_iff, List.forall_mem_cons, and_assoc]

theorem exists_edit_of_lastEdit? (h : ∀ key, m'.lastEdit? key = m.lastEdit? key)
    (hedit : edit ∈ m'.edits) : ∃ other ∈ m.edits, other.key = edit.key := by
  by_contra hnone
  have hlast : m.lastEdit? edit.key = none :=
    lastEdit?_eq_none_iff.2 fun other hother hkey => hnone ⟨other, hother, hkey⟩
  rw [← h] at hlast
  exact lastEdit?_eq_none_iff.1 hlast edit hedit rfl

theorem apply_eq_of_lastEdit? (h : ∀ key, m'.lastEdit? key = m.lastEdit? key) :
    m'.apply l = m.apply l := by
  refine eq_of_agreesOutside ?_ ?_ ?_ ?_
  · exact (agreesOutside_apply m l).symm.trans (agreesOutside_apply m' l)
  · intro k
    rw [primary_apply, primary_apply, h]
  · rw [additionalInfo_apply_eq_none_iff, additionalInfo_apply_eq_none_iff]
    refine and_congr_right fun _ => ⟨fun hall edit hedit => ?_, fun hall edit hedit => ?_⟩
    · obtain ⟨other, hother, hkey⟩ := exists_edit_of_lastEdit? (fun key => (h key).symm) hedit
      exact hkey ▸ hall other hother
    · obtain ⟨other, hother, hkey⟩ := exists_edit_of_lastEdit? h hedit
      exact hkey ▸ hall other hother
  · intro name
    rw [info?_apply, info?_apply, h]

/-- After a modifier every attribute has the value of its last edit, and is as before if it has
none. What is no attribute stays, and additional information is there unless there was none and all
edits are of primary attributes. The listen is settled by the last edit of each key, however the
edits of different keys follow each other, and applying the modifier again changes nothing. -/
theorem apply_lastEdit (m : Modifier) (l : Listen) :
    (∀ key, (m.apply l).get key = ((m.lastEdit? key).map .text).getD (l.get key)) ∧
      l.AgreesOutside (m.apply l) ∧
      ((m.apply l).track.additionalInfo = none ↔
        l.track.additionalInfo = none ∧
          ∀ edit ∈ m.edits, ∃ k : PrimaryKey, edit.key = k.name) ∧
      (∀ m' : Modifier, (∀ key, m'.lastEdit? key = m.lastEdit? key) → m'.apply l = m.apply l) ∧
      (∀ m' : Modifier,
        (∀ key, m'.edits.filter (·.key = key) = m.edits.filter (·.key = key)) →
          m'.apply l = m.apply l) ∧
      m.apply (m.apply l) = m.apply l := by
  refine ⟨get_apply m l, agreesOutside_apply m l, ?_, fun m' => apply_eq_of_lastEdit?,
    fun m' horder => ?_, ?_⟩
  · rw [additionalInfo_apply_eq_none_iff]
    simp only [ne_eq, PrimaryKey.ofName_eq_none_iff, not_forall, not_not]
  · apply apply_eq_of_lastEdit?
    intro key
    rw [lastEdit?, lastEdit?, horder]
  · rw [← apply_append]
    apply apply_eq_of_lastEdit?
    intro key
    rw [lastEdit?_append, Option.or_self]

theorem apply_lastEdit_mixed :
    let l : Listen := (Listen.ofNames 5 "A" "T").insertInfo "release_name" (.string "R")
    let m : Modifier := ⟨[⟨"release_name", "X"⟩, ⟨"listened_at", "1"⟩, ⟨"release_name", "Y"⟩]⟩
    let m' : Modifier := ⟨[⟨"release_name", "X"⟩, ⟨"release_name", "Y"⟩, ⟨"listened_at", "1"⟩]⟩
    (m.apply l).get "release_name" = .text "Y" ∧
      (m.apply l).get "artist_name" = l.get "artist_name" ∧ (m.apply l).listenedAt = 5 ∧
      m'.apply l = m.apply l ∧ m.apply (m.apply l) = m.apply l := by
  intro l m m'
  obtain ⟨hget, hrest, -, -, horder, htwice⟩ := apply_lastEdit m l
  refine ⟨hget "release_name", hget "artist_name", hrest.listenedAt, ?_, htwice⟩
  apply horder
  intro key
  by_cases hkey : "release_name" = key
  · subst hkey
    rfl
  · simp [m, m', List.filter_cons, hkey]

end Modifier

end ListenQuery

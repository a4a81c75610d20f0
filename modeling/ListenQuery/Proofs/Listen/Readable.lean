import ListenQuery.Listen.Text
import ListenQuery.Proofs.Json.Typed

/-!
# Listens that can be read

The fields of a listen that the library does not interpret have other names than those that it
does, stand in the order of their names, and are nested no deeper than a line allows. Reading gives
only such listens, and edits keep them so.
-/

namespace ListenQuery

open Cursor Number

def TrackMetadata.names : List String :=
  ["artist_name", "track_name", "release_name", "additional_info"]

def Listen.names : List String :=
  ["listened_at", "inserted_at", "user_name", "recording_msid", "track_metadata"]

/-- Fields under other names than `names`, with values nested at most `depth` deep. -/
structure SortedFields.Unknown (depth : Nat) (names : List String)
    (fields : SortedFields Json) : Prop where
  readable : fields.Readable depth
  names : ∀ field ∈ fields.toFields, field.1 ∉ names

theorem SortedFields.unknown_empty (depth : Nat) (names : List String) :
    empty.Unknown depth names := ⟨readable_empty depth, nofun⟩

/-- Track metadata with values of the additional information nested at most `depth` deep, and
those of other fields one level deeper. -/
structure TrackMetadata.Readable (depth : Nat) (t : TrackMetadata) : Prop where
  info : ∀ info ∈ t.additionalInfo, info.Readable depth
  extra : t.extra.Unknown (depth + 1) names

structure Listen.Readable (depth : Nat) (l : Listen) : Prop where
  track : l.track.Readable depth
  extra : l.extra.Unknown (depth + 2) names

section

variable [RealReading] {depth : Nat} {name : String} {cur cur' : Cursor}

theorem unknown_of_objectMember {names : List String} {fields fields' : SortedFields Json}
    (hfields : fields.Unknown depth names) (hname : name ∉ names)
    (h : objectMember (value depth) fields name cur = .ok (fields', cur')) :
    fields'.Unknown depth names := by
  refine ⟨readable_of_objectMember readable_of_value hfields.readable h, ?_⟩
  obtain ⟨start, json, -, -, rfl⟩ := objectMember_eq_ok h
  exact Fields.forall_mem_insert hfields.names hname

namespace PartialTrack

structure Readable (depth : Nat) (t : PartialTrack) : Prop where
  info : ∀ info ∈ t.additionalInfo.join, info.Readable depth
  extra : t.extra.Unknown (depth + 1) TrackMetadata.names

theorem readable_member {t t' : PartialTrack} (ht : t.Readable depth)
    (h : member (depth + 1) t name cur = .ok (t', cur')) : t'.Readable depth := by
  unfold member at h
  split at h
  all_goals
    simp only [bind_eq_ok_iff, pure_eq_ok, Except.ok.injEq, Prod.mk.injEq, Prod.exists] at h
  · obtain ⟨_, _, -, rfl, -⟩ := h
    exact ⟨ht.info, ht.extra⟩
  · obtain ⟨_, _, -, rfl, -⟩ := h
    exact ⟨ht.info, ht.extra⟩
  · obtain ⟨_, _, -, rfl, -⟩ := h
    exact ⟨ht.info, ht.extra⟩
  · obtain ⟨_, _, honce, rfl, -⟩ := h
    obtain ⟨-, _, -, hoptional⟩ := onlyOnce_eq_ok honce
    refine ⟨fun info hinfo => ?_, ht.extra⟩
    obtain ⟨_, hread⟩ := optional_eq_ok hoptional info hinfo
    exact readable_of_fieldsOf hread
  · next hartist htrack hrelease hinfo =>
    obtain ⟨_, _, hmember, rfl, -⟩ := h
    refine ⟨ht.info, unknown_of_objectMember ht.extra ?_ hmember⟩
    simp_all [TrackMetadata.names]

end PartialTrack

theorem TrackMetadata.readable_of_reader {t : TrackMetadata}
    (h : TrackMetadata.reader (depth + 2) cur = .ok (t, cur')) : t.Readable depth := by
  obtain ⟨inner, _, hdepth, -, hbody⟩ := braced_eq_ok h
  obtain rfl := Nat.succ.inj hdepth
  simp only [bind_eq_ok_iff, pure_eq_ok, Except.ok.injEq, Prod.mk.injEq, Prod.exists] at hbody
  obtain ⟨t', _, hmembers, _, hcomplete, rfl, -⟩ := hbody
  have ht' : t'.Readable depth := by
    refine invariant_of_membersWithin PartialTrack.readable_member ?_ hmembers
    exact ⟨by simp [PartialTrack.empty], SortedFields.unknown_empty _ _⟩
  simp only [PartialTrack.complete, bind_eq_ok_iff, pure_eq_ok, Except.ok.injEq] at hcomplete
  obtain ⟨_, -, _, -, rfl⟩ := hcomplete
  exact ⟨ht'.info, ht'.extra⟩

namespace PartialListen

structure Readable (depth : Nat) (l : PartialListen) : Prop where
  track : ∀ t ∈ l.track, t.Readable depth
  extra : l.extra.Unknown (depth + 2) Listen.names

theorem readable_member {l l' : PartialListen} (hl : l.Readable depth)
    (h : member (depth + 2) l name cur = .ok (l', cur')) : l'.Readable depth := by
  unfold member at h
  split at h
  all_goals
    simp only [bind_eq_ok_iff, pure_eq_ok, Except.ok.injEq, Prod.mk.injEq, Prod.exists] at h
  · obtain ⟨_, _, -, rfl, -⟩ := h
    exact ⟨hl.track, hl.extra⟩
  · obtain ⟨_, _, -, rfl, -⟩ := h
    exact ⟨hl.track, hl.extra⟩
  · obtain ⟨_, _, -, rfl, -⟩ := h
    exact ⟨hl.track, hl.extra⟩
  · obtain ⟨_, _, -, rfl, -⟩ := h
    exact ⟨hl.track, hl.extra⟩
  · obtain ⟨_, _, honce, rfl, -⟩ := h
    obtain ⟨-, _, -, hread⟩ := onlyOnce_eq_ok honce
    refine ⟨?_, hl.extra⟩
    rintro _ ⟨⟩
    exact TrackMetadata.readable_of_reader hread
  · next hlistened hinserted huser hmsid htrack =>
    obtain ⟨_, _, hmember, rfl, -⟩ := h
    refine ⟨hl.track, unknown_of_objectMember hl.extra ?_ hmember⟩
    simp_all [Listen.names]

end PartialListen

theorem Listen.readable_of_reader {l : Listen}
    (h : Listen.reader (depth + 3) cur = .ok (l, cur')) : l.Readable depth := by
  obtain ⟨inner, _, hdepth, -, hbody⟩ := braced_eq_ok h
  obtain rfl := Nat.succ.inj hdepth
  simp only [bind_eq_ok_iff, pure_eq_ok, Except.ok.injEq, Prod.mk.injEq, Prod.exists] at hbody
  obtain ⟨l', _, hmembers, _, hcomplete, rfl, -⟩ := hbody
  have hl' : l'.Readable depth := by
    refine invariant_of_membersWithin PartialListen.readable_member ?_ hmembers
    exact ⟨by simp [PartialListen.empty], SortedFields.unknown_empty _ _⟩
  simp only [PartialListen.complete, bind_eq_ok_iff, pure_eq_ok, Except.ok.injEq] at hcomplete
  obtain ⟨_, -, t, htrack, rfl⟩ := hcomplete
  exact ⟨hl'.track t (required_eq_ok htrack), hl'.extra⟩

end

namespace Listen

def infoDepth : Nat := depthLimit - 3

theorem readable_of_read [RealReading] {line : String} {l : Listen} (h : read line = .ok l) :
    l.Readable infoDepth := by
  obtain ⟨⟨l', cur⟩, hreader, hfinish⟩ := bind_eq_ok_iff.1 h
  obtain ⟨-, rfl⟩ := finish_eq_ok_iff.1 hfinish
  exact readable_of_reader hreader

theorem Readable.insertInfo {depth : Nat} {l : Listen} (h : l.Readable depth) (key : String)
    {json : Json} (hjson : json.Readable depth) : (l.insertInfo key json).Readable depth := by
  refine ⟨⟨?_, h.track.extra⟩, h.extra⟩
  rintro _ ⟨⟩
  refine SortedFields.Readable.insert ?_ hjson
  cases hinfo : l.track.additionalInfo with
  | none => exact SortedFields.readable_empty depth
  | some info => exact h.track.info info hinfo

theorem Readable.setMetadata {depth : Nat} {l : Listen} (h : l.Readable depth)
    (key value : String) : (l.setMetadata key value).Readable depth :=
  h.insertInfo key (.string depth value)

theorem Readable.setPrimary? {depth : Nat} {l l' : Listen} (h : l.Readable depth)
    {key value : String} (hset : l.setPrimary? key value = some l') : l'.Readable depth := by
  obtain ⟨primary, -, rfl⟩ := Option.map_eq_some_iff.1 hset
  cases primary <;> exact ⟨⟨h.track.info, h.track.extra⟩, h.extra⟩

theorem Readable.set {depth : Nat} {l : Listen} (h : l.Readable depth) (key value : String) :
    (l.set key value).Readable depth := by
  unfold Listen.set
  cases hset : l.setPrimary? key value with
  | none => exact h.setMetadata key value
  | some l' => exact h.setPrimary? hset

end Listen

end ListenQuery

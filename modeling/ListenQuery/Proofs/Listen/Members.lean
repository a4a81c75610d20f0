import ListenQuery.Proofs.Json.Untyped
import ListenQuery.Proofs.Listen.RoundTrip

/-!
# The members of a written listen

A listen is written as an object whose members stand in the order of its fields, each under a name
of its own. As a value, such an object has the same members in the order of their names.
-/

namespace ListenQuery

open Cursor Number

/-- No object within the value has two members of one name. -/
inductive Json.Distinct : Json → Prop
  | null : Distinct .null
  | bool (b : Bool) : Distinct (.bool b)
  | number (n : Numeral) : Distinct (.number n)
  | string (s : String) : Distinct (.string s)
  | array {items : List Json} (h : ∀ item ∈ items, Distinct item) : Distinct (.array items)
  | object {members : Fields Json} (hnames : (members.map (·.1)).Nodup)
    (h : ∀ member ∈ members, Distinct member.2) : Distinct (.object members)

theorem Fields.Sorted.nodup {α : Type} {fields : Fields α} (h : fields.Sorted) :
    (fields.map (·.1)).Nodup := (List.pairwise_map.2 h).imp fun hlt => hlt.ne

theorem Json.Readable.distinct {depth : Nat} {json : Json} (h : json.Readable depth) :
    json.Distinct := by
  induction h with
  | null => exact .null
  | bool depth b => exact .bool b
  | number depth n => exact .number n
  | string depth s => exact .string s
  | array _ ih => exact .array ih
  | object hsorted _ ih => exact .object hsorted.nodup ih

section

variable {α : Type} {name : String} {json : α → Json} {value : Option α}

theorem get?_member? (key : String) :
    Fields.get? key (member? name json value) = if key = name then value.map json else none := by
  cases value with
  | none => simp [member?]
  | some x => simp [member?]

theorem forall_mem_member? {P : String × Json → Prop} (h : ∀ x ∈ value, P (name, json x)) :
    ∀ member ∈ member? name json value, P member := by
  cases value with
  | none => simp [member?]
  | some x => exact List.forall_mem_singleton.2 (h x rfl)

theorem map_fst_member?_sublist : ((member? name json value).map (·.1)).Sublist [name] := by
  cases value with
  | none => exact List.nil_sublist _
  | some x => exact List.Sublist.refl _

end

namespace SortedFields

variable {depth : Nat} {names : List String} {known : Fields Json} {extra : SortedFields Json}
  {key : String}

theorem Unknown.get?_of_mem (h : extra.Unknown depth names) (hkey : key ∈ names) :
    extra.get? key = none :=
  Fields.get?_eq_none_iff.2 fun field hfield heq => h.names field hfield (heq ▸ hkey)

theorem Unknown.nodup_append (h : extra.Unknown depth names) (hnames : names.Nodup)
    (hknown : (known.map (·.1)).Sublist names) : ((known ++ extra.toFields).map (·.1)).Nodup := by
  rw [List.map_append, List.nodup_append]
  refine ⟨hknown.nodup hnames, extra.sorted.nodup, ?_⟩
  intro name hname other hother heq
  obtain ⟨field, hfield, rfl⟩ := List.mem_map.1 hother
  exact h.names field hfield (heq ▸ hknown.subset hname)

theorem Unknown.get?_append (h : extra.Unknown depth names)
    (hknown : (known.map (·.1)).Sublist names) (key : String) :
    Fields.get? key (known ++ extra.toFields) =
      if key ∈ names then Fields.get? key known else extra.get? key := by
  rw [Fields.get?_append, show extra.toFields.get? key = extra.get? key from rfl]
  split
  · next hkey => rw [h.get?_of_mem hkey, Option.or_none]
  · next hkey =>
    have hnone : Fields.get? key known = none := Fields.get?_eq_none_iff.2 fun field hfield heq =>
      hkey (hknown.subset (List.mem_map.2 ⟨field, hfield, heq⟩))
    rw [hnone, Option.none_or]

end SortedFields

/-- The value of a member as far as it has been read. -/
def PartialTrack.value? (t : PartialTrack) (key : String) : Option Json :=
  if key = "artist_name" then t.artistName.map .string
  else if key = "track_name" then t.trackName.map .string
  else if key = "release_name" then t.releaseName.map (orNull .string)
  else if key = "additional_info" then t.additionalInfo.map (orNull (.object ·.toFields))
  else t.extra.get? key

theorem PartialTrack.value?_unknown {t : PartialTrack} {key : String}
    (hkey : key ∉ TrackMetadata.names) : t.value? key = t.extra.get? key := by
  simp only [TrackMetadata.names, List.mem_cons, not_or] at hkey
  simp [value?, hkey]

namespace TrackMetadata

def known (t : TrackMetadata) : Fields Json :=
  [("artist_name", .string t.artistName), ("track_name", .string t.trackName)] ++
    member? "release_name" .string t.releaseName ++
    member? "additional_info" (.object ·.toFields) t.additionalInfo

def members (t : TrackMetadata) : Fields Json := t.known ++ t.extra.toFields

def inOrder (t : TrackMetadata) : Json := .object (SortedFields.ofList t.members).toFields

/-- What has been read when the members that are written have been. -/
def written (t : TrackMetadata) : PartialTrack :=
  ⟨some t.artistName, some t.trackName, t.releaseName.map some, t.additionalInfo.map some, t.extra⟩

variable {t : TrackMetadata} {depth : Nat}

theorem known_sublist (t : TrackMetadata) : (t.known.map (·.1)).Sublist names := by
  simp only [known, List.map_append]
  exact ((List.Sublist.refl ["artist_name", "track_name"]).append map_fst_member?_sublist).append
    map_fst_member?_sublist

theorem nodup_members (ht : t.Readable depth) : (t.members.map (·.1)).Nodup :=
  ht.extra.nodup_append (by decide) t.known_sublist

theorem get?_members (ht : t.Readable depth) (key : String) :
    t.members.get? key = t.written.value? key := by
  rw [members, ht.extra.get?_append t.known_sublist]
  split
  · next hkey =>
    simp only [names, List.mem_cons, List.not_mem_nil, or_false] at hkey
    simp only [known, Fields.get?_append, Fields.get?_cons, Fields.get?_nil, get?_member?]
    rcases hkey with rfl | rfl | rfl | rfl
    · simp [written, PartialTrack.value?]
    · simp [written, PartialTrack.value?]
    · simp [written, PartialTrack.value?]
      rfl
    · simp [written, PartialTrack.value?]
      rfl
  · next hkey =>
    rw [PartialTrack.value?_unknown hkey]
    rfl

theorem readable_members (ht : t.Readable depth) :
    ∀ member ∈ t.members, member.2.Readable (depth + 1) := by
  simp only [members, known, List.forall_mem_append, List.forall_mem_cons]
  refine ⟨⟨⟨⟨.string _ _, .string _ _, by simp⟩, ?_⟩, ?_⟩, ht.extra.readable⟩
  · exact forall_mem_member? fun name _ => .string _ _
  · refine forall_mem_member? fun info hinfo => ?_
    exact .object info.sorted (ht.info info hinfo)

theorem distinct_toJson (ht : t.Readable depth) : t.toJson.Distinct :=
  .object (nodup_members ht) fun member hmember => (readable_members ht member hmember).distinct

theorem reads_inOrder [RealReading] (hnearest : RealReading.IsNearest) (ht : t.Readable depth) :
    Reads (value (depth + 2)) t.toJson.compact t.inOrder := by
  rw [toJson, Layout.compact_object]
  refine reads_members (leads_foldl_insert .empty fun member hmember => ?_)
  exact reads_compact hnearest (readable_members ht member hmember)

end TrackMetadata

def PartialListen.value? (track : Option Json) (l : PartialListen) (key : String) : Option Json :=
  if key = "listened_at" then l.listenedAt.map intJson
  else if key = "inserted_at" then l.insertedAt.map (orNull intJson)
  else if key = "user_name" then l.userName.map (orNull .string)
  else if key = "recording_msid" then l.recordingMsid.map (orNull .string)
  else if key = "track_metadata" then track
  else l.extra.get? key

theorem PartialListen.value?_unknown {track : Option Json} {l : PartialListen} {key : String}
    (hkey : key ∉ Listen.names) : l.value? track key = l.extra.get? key := by
  simp only [Listen.names, List.mem_cons, not_or] at hkey
  simp [value?, hkey]

namespace Listen

def beforeTrack (l : Listen) : Fields Json :=
  [("listened_at", intJson l.listenedAt)] ++ member? "inserted_at" intJson l.insertedAt ++
    member? "user_name" .string l.userName ++ member? "recording_msid" .string l.recordingMsid

def known (l : Listen) (track : Json) : Fields Json := l.beforeTrack ++ [("track_metadata", track)]

def members (l : Listen) (track : Json) : Fields Json := l.known track ++ l.extra.toFields

def inOrder (l : Listen) : Json :=
  .object (SortedFields.ofList (l.members l.track.inOrder)).toFields

def written (l : Listen) : PartialListen :=
  ⟨some l.listenedAt, l.insertedAt.map some, l.userName.map some, l.recordingMsid.map some,
    some l.track, l.extra⟩

variable {l : Listen} {depth : Nat}

theorem known_sublist (l : Listen) (track : Json) : ((l.known track).map (·.1)).Sublist names := by
  simp only [known, beforeTrack, List.map_append]
  exact ((((List.Sublist.refl ["listened_at"]).append map_fst_member?_sublist).append
    map_fst_member?_sublist).append map_fst_member?_sublist).append
      (List.Sublist.refl ["track_metadata"])

theorem nodup_members (hl : l.Readable depth) (track : Json) :
    ((l.members track).map (·.1)).Nodup :=
  hl.extra.nodup_append (by decide) (l.known_sublist track)

theorem get?_members (hl : l.Readable depth) (track : Json) (key : String) :
    (l.members track).get? key = l.written.value? (some track) key := by
  rw [members, hl.extra.get?_append (l.known_sublist track)]
  split
  · next hkey =>
    simp only [names, List.mem_cons, List.not_mem_nil, or_false] at hkey
    simp only [known, beforeTrack, Fields.get?_append, Fields.get?_cons, Fields.get?_nil,
      get?_member?]
    rcases hkey with rfl | rfl | rfl | rfl | rfl
    · simp [written, PartialListen.value?]
    · simp [written, PartialListen.value?]
      rfl
    · simp [written, PartialListen.value?]
      rfl
    · simp [written, PartialListen.value?]
      rfl
    · simp [PartialListen.value?]
  · next hkey =>
    rw [PartialListen.value?_unknown hkey]
    rfl

theorem readable_beforeTrack (l : Listen) (depth : Nat) :
    ∀ member ∈ l.beforeTrack, member.2.Readable (depth + 2) := by
  simp only [beforeTrack, List.forall_mem_append, List.forall_mem_singleton]
  refine ⟨⟨⟨.number _ _, ?_⟩, ?_⟩, ?_⟩
  · exact forall_mem_member? fun time _ => .number _ _
  · exact forall_mem_member? fun name _ => .string _ _
  · exact forall_mem_member? fun name _ => .string _ _

theorem distinct_toJson (hl : l.Readable depth) : l.toJson.Distinct := by
  suffices hmembers : ∀ member ∈ l.members l.track.toJson, member.2.Distinct from
    .object (nodup_members hl l.track.toJson) hmembers
  simp only [members, known, List.forall_mem_append, List.forall_mem_singleton]
  refine ⟨⟨fun member hmember => ?_, TrackMetadata.distinct_toJson hl.track⟩, ?_⟩
  · exact (l.readable_beforeTrack depth member hmember).distinct
  · exact fun member hmember => (hl.extra.readable member hmember).distinct

theorem reads_inOrder [RealReading] (hnearest : RealReading.IsNearest) (hl : l.Readable depth) :
    Reads (value (depth + 3)) l.toJson.compact l.inOrder := by
  have hbefore : Leads .compact (objectMember (value (depth + 2))) .empty l.beforeTrack
      (.ofList l.beforeTrack) :=
    leads_foldl_insert .empty fun member hmember =>
      reads_compact hnearest (l.readable_beforeTrack depth member hmember)
  have htrack : Leads .compact (objectMember (value (depth + 2))) (SortedFields.ofList l.beforeTrack)
      [("track_metadata", l.track.toJson)]
      ((SortedFields.ofList l.beforeTrack).insert "track_metadata" l.track.inOrder) :=
    .cons (reads_objectMember (TrackMetadata.reads_inOrder hnearest hl.track) _ _) (.nil _)
  have hextra := leads_foldl_insert
    ((SortedFields.ofList l.beforeTrack).insert "track_metadata" l.track.inOrder) fun member hmember =>
      reads_compact hnearest (hl.extra.readable member hmember)
  have hread := reads_members ((hbefore.append htrack).append hextra)
  rw [← Layout.compact_object] at hread
  rwa [inOrder, SortedFields.ofList, members, known, List.foldl_append, List.foldl_append]

theorem read_line_eq_inOrder [RealReading] (hnearest : RealReading.IsNearest)
    (hl : l.Readable infoDepth) : Json.read l.line = .ok l.inOrder := by
  obtain ⟨p', hread⟩ := reads_inOrder hnearest hl [] ⟨1, 0⟩ endsValue_nil
  rw [List.append_nil] at hread
  have hstart : start l.line = ⟨l.toJson.compact, ⟨1, 0⟩⟩ := by simp [start, line]
  rw [Json.read, hstart]
  exact bind_eq_ok_iff.2 ⟨_, hread, rfl⟩

end Listen

end ListenQuery

import ListenQuery.Proofs.Listen.Members

/-!
# What a written listen keeps

A line that is read as a listen is a JSON object, and what is written for the listen is that object
without the optional fields that are null. Every member keeps its value, whether the library
interprets it or not, and what is written is read and written back unchanged.
-/

namespace ListenQuery

open Cursor Number

namespace Json

def isNull : Json → Bool
  | null => true
  | _ => false

/-- A member is set unless it is an optional one that is null. -/
def isSet (optional : List String) (name : String) (json : Json) : Bool :=
  ! (optional.contains name && json.isNull)

def setOnly (optional : List String) : Json → Json
  | object members => object (members.filter fun member => isSet optional member.1 member.2)
  | json => json

def get? (key : String) : Json → Option Json
  | object members => Fields.get? key members
  | _ => none

theorem get?_setOnly {optional : List String} {key : String} (hkey : key ∉ optional) (json : Json) :
    (json.setOnly optional).get? key = json.get? key := by
  cases json with
  | object members =>
    refine Fields.get?_filter_of_keep fun value => ?_
    simp [isSet, hkey]
  | _ => rfl

end Json

def TrackMetadata.withoutUnset : Json → Json := Json.setOnly ["release_name", "additional_info"]

namespace Listen

def memberWithoutUnset (name : String) (json : Json) : Json :=
  if name = "track_metadata" then TrackMetadata.withoutUnset json else json

/-- A listen without its optional fields that are null, and those of its track. -/
def withoutUnset : Json → Json
  | .object members =>
    .setOnly ["inserted_at", "user_name", "recording_msid"] <| .object <|
      members.map fun member => (member.1, memberWithoutUnset member.1 member.2)
  | json => json

theorem get?_withoutUnset_eq_map {key : String}
    (hkey : key ∉ ["inserted_at", "user_name", "recording_msid"]) (json : Json) :
    (withoutUnset json).get? key = (json.get? key).map (memberWithoutUnset key) := by
  cases json with
  | object members =>
    rw [withoutUnset, Json.get?_setOnly hkey]
    exact Fields.get?_map memberWithoutUnset
  | _ => rfl

theorem get?_withoutUnset (json : Json) (key : String) (hkey : key ∉ names) :
    (withoutUnset json).get? key = json.get? key := by
  simp only [names, List.mem_cons, not_or] at hkey
  obtain ⟨-, hinserted, huser, hmsid, htrack, -⟩ := hkey
  have hmember : memberWithoutUnset key = id := by
    funext json
    simp [memberWithoutUnset, htrack]
  rw [get?_withoutUnset_eq_map (by simp [hinserted, huser, hmsid]), hmember, Option.map_id, id]

theorem get?_track_withoutUnset (json : Json) (key : String) (hkey : key ∉ TrackMetadata.names) :
    ((withoutUnset json).get? "track_metadata").bind (·.get? key) =
      (json.get? "track_metadata").bind (·.get? key) := by
  simp only [TrackMetadata.names, List.mem_cons, not_or] at hkey
  obtain ⟨-, -, hrelease, hinfo, -⟩ := hkey
  rw [get?_withoutUnset_eq_map (by decide), Option.bind_map]
  congr 1
  funext track
  exact Json.get?_setOnly (by simp [hrelease, hinfo]) track

end Listen

section

variable [RealReading] {depth : Nat}

def PartialTrack.Holds (t : PartialTrack) (fields : SortedFields Json) : Prop :=
  ∀ key, fields.get? key = t.value? key

theorem PartialTrack.holds_member {t t' : PartialTrack} {fields : SortedFields Json}
    {name : String} {cur cur' : Cursor} (ht : t.Holds fields)
    (h : member depth t name cur = .ok (t', cur')) :
    ∃ fields', t'.Holds fields' ∧
      objectMember (value depth) fields name cur = .ok (fields', cur') := by
  -- one more member is inserted, whichever it is
  suffices hinsert : ∃ json,
      (∀ key, (if key = name then some json else t.value? key) = t'.value? key) ∧
      objectMember (value depth) fields name cur = .ok (fields.insert name json, cur') by
    obtain ⟨json, hvalue, hmember⟩ := hinsert
    refine ⟨_, fun key => ?_, hmember⟩
    rw [SortedFields.get?_insert, ht, hvalue]
  unfold member at h
  split at h
  all_goals
    simp only [bind_eq_ok_iff, pure_eq_ok, Except.ok.injEq, Prod.mk.injEq, Prod.exists] at h
    obtain ⟨x, after, honce, rfl, rfl⟩ := h
  · obtain ⟨-, json, rfl, hmember⟩ := objectMember_of_onlyOnce (takesValue_text _) honce fields
    refine ⟨_, fun key => ?_, hmember⟩
    by_cases hkey : key = "artist_name" <;> simp [value?, hkey]
  · obtain ⟨-, json, rfl, hmember⟩ := objectMember_of_onlyOnce (takesValue_text _) honce fields
    refine ⟨_, fun key => ?_, hmember⟩
    by_cases hkey : key = "track_name" <;> simp [value?, hkey]
  · obtain ⟨-, json, rfl, hmember⟩ := objectMember_of_onlyOnce
      (takesValue_optional (takesValue_text _)) honce fields
    refine ⟨_, fun key => ?_, hmember⟩
    by_cases hkey : key = "release_name" <;> simp [value?, hkey]
  · obtain ⟨-, json, rfl, hmember⟩ := objectMember_of_onlyOnce
      (takesValue_optional takesValue_fieldsOf) honce fields
    refine ⟨_, fun key => ?_, hmember⟩
    by_cases hkey : key = "additional_info" <;> simp [value?, hkey]
  · obtain ⟨json, rfl, hmember⟩ := objectMember_of_objectMember honce fields
    refine ⟨_, fun key => ?_, hmember⟩
    by_cases hkey : key = name <;> simp_all [value?, SortedFields.get?_insert]

omit [RealReading] in
theorem PartialTrack.holds_empty : PartialTrack.empty.Holds .empty := by
  intro key
  simp [empty, value?]

omit [RealReading] in
theorem PartialTrack.complete_eq_ok {t' : PartialTrack} {t : TrackMetadata} {cur : Cursor}
    (h : t'.complete cur = .ok t) :
    ∃ release info, t' = ⟨some t.artistName, some t.trackName, release, info, t.extra⟩ ∧
      t.releaseName = release.join ∧ t.additionalInfo = info.join := by
  obtain ⟨artist, track, release, info, extra⟩ := t'
  obtain ⟨a, hartist, hmore⟩ := bind_eq_ok_iff.1 h
  obtain ⟨b, htrack, heq⟩ := bind_eq_ok_iff.1 hmore
  obtain rfl := required_eq_ok hartist
  obtain rfl := required_eq_ok htrack
  obtain rfl := Except.ok.inj heq
  exact ⟨release, info, rfl, rfl, rfl⟩

omit [RealReading] in
theorem PartialTrack.filter_value? {t' : PartialTrack} {t : TrackMetadata} {cur : Cursor}
    (h : t'.complete cur = .ok t) (key : String) :
    (t'.value? key).filter (Json.isSet ["release_name", "additional_info"] key) =
      t.written.value? key := by
  obtain ⟨release, info, rfl, hrelease, hinfo⟩ := complete_eq_ok h
  simp only [value?, TrackMetadata.written, hrelease, hinfo]
  split_ifs with hkey hkey hkey hkey
  · simp [hkey, Json.isSet]
  · simp [hkey, Json.isSet]
  · rcases release with _ | _ | name <;> simp [hkey, orNull, Json.isSet, Json.isNull]
  · rcases info with _ | _ | fields <;> simp [hkey, orNull, Json.isSet, Json.isNull]
  · cases t.extra.get? key <;> simp [Option.filter, Json.isSet, *]

theorem TrackMetadata.takesValue_reader :
    TakesValue (TrackMetadata.reader (depth + 2)) (depth + 2) fun t json =>
      withoutUnset json = t.inOrder := by
  intro cur t cur' h
  have ht := TrackMetadata.readable_of_reader h
  obtain ⟨inner, rest, hdepth, hrest, hbody⟩ := braced_eq_ok h
  obtain rfl := Nat.succ.inj hdepth
  simp only [bind_eq_ok_iff, pure_eq_ok, Except.ok.injEq, Prod.mk.injEq, Prod.exists] at hbody
  obtain ⟨t', after, hmembers, t, hcomplete, rfl, rfl⟩ := hbody
  obtain ⟨fields, hfields, hvalue⟩ :=
    value_of_members PartialTrack.holds_member PartialTrack.holds_empty hrest hmembers
  refine ⟨.object fields.toFields, congrArg Json.object ?_, hvalue⟩
  -- both have their members in the order of the names, so they are compared name by name
  let written := SortedFields.ofList t.members
  refine Fields.ext_get? (Fields.sorted_filter _ fields.sorted) written.sorted fun key => ?_
  rw [Fields.get?_filter (Json.isSet _) fields.sorted,
    show fields.toFields.get? key = _ from hfields key, PartialTrack.filter_value? hcomplete,
    show written.toFields.get? key = _ from SortedFields.get?_ofList (nodup_members ht),
    get?_members ht]

/-- The members read so far are those of an object whose track may have more that is null. -/
def PartialListen.Holds (l : PartialListen) (fields : SortedFields Json) : Prop :=
  ∃ track, (∀ key, fields.get? key = l.value? track key) ∧
    Option.Rel (fun t json => TrackMetadata.withoutUnset json = t.inOrder) l.track track

theorem PartialListen.holds_member {l l' : PartialListen} {fields : SortedFields Json}
    {name : String} {cur cur' : Cursor} (hl : l.Holds fields)
    (h : member (depth + 2) l name cur = .ok (l', cur')) :
    ∃ fields', l'.Holds fields' ∧
      objectMember (value (depth + 2)) fields name cur = .ok (fields', cur') := by
  obtain ⟨track, hfields, htrack⟩ := hl
  -- as for a track, but the member of the track is only known up to what is null in it
  suffices hinsert : ∃ json track',
      (∀ key, (if key = name then some json else l.value? track key) = l'.value? track' key) ∧
      Option.Rel (fun t json => TrackMetadata.withoutUnset json = t.inOrder) l'.track track' ∧
      objectMember (value (depth + 2)) fields name cur = .ok (fields.insert name json, cur') by
    obtain ⟨json, track', hvalue, htrack', hmember⟩ := hinsert
    refine ⟨_, ⟨track', fun key => ?_, htrack'⟩, hmember⟩
    rw [SortedFields.get?_insert, hfields, hvalue]
  unfold member at h
  split at h
  all_goals
    simp only [bind_eq_ok_iff, pure_eq_ok, Except.ok.injEq, Prod.mk.injEq, Prod.exists] at h
    obtain ⟨x, after, honce, rfl, rfl⟩ := h
  · obtain ⟨-, json, rfl, hmember⟩ := objectMember_of_onlyOnce takesValue_int64 honce fields
    refine ⟨_, track, fun key => ?_, htrack, hmember⟩
    by_cases hkey : key = "listened_at" <;> simp [value?, hkey]
  · obtain ⟨-, json, rfl, hmember⟩ := objectMember_of_onlyOnce
      (takesValue_optional takesValue_int64) honce fields
    refine ⟨_, track, fun key => ?_, htrack, hmember⟩
    by_cases hkey : key = "inserted_at" <;> simp [value?, hkey]
  · obtain ⟨-, json, rfl, hmember⟩ := objectMember_of_onlyOnce
      (takesValue_optional (takesValue_text _)) honce fields
    refine ⟨_, track, fun key => ?_, htrack, hmember⟩
    by_cases hkey : key = "user_name" <;> simp [value?, hkey]
  · obtain ⟨-, json, rfl, hmember⟩ := objectMember_of_onlyOnce
      (takesValue_optional (takesValue_text _)) honce fields
    refine ⟨_, track, fun key => ?_, htrack, hmember⟩
    by_cases hkey : key = "recording_msid" <;> simp [value?, hkey]
  · obtain ⟨-, json, hjson, hmember⟩ := objectMember_of_onlyOnce
      TrackMetadata.takesValue_reader honce fields
    refine ⟨json, some json, fun key => ?_, .some hjson, hmember⟩
    by_cases hkey : key = "track_metadata" <;> simp [value?, hkey]
  · obtain ⟨json, rfl, hmember⟩ := objectMember_of_objectMember honce fields
    refine ⟨_, track, fun key => ?_, htrack, hmember⟩
    by_cases hkey : key = name <;> simp_all [value?, SortedFields.get?_insert]

omit [RealReading] in
theorem PartialListen.holds_empty : PartialListen.empty.Holds .empty := by
  refine ⟨none, fun key => ?_, .none⟩
  simp [empty, value?]

omit [RealReading] in
theorem PartialListen.complete_eq_ok {l' : PartialListen} {l : Listen} {cur : Cursor}
    (h : l'.complete cur = .ok l) :
    ∃ inserted user msid,
      l' = ⟨some l.listenedAt, inserted, user, msid, some l.track, l.extra⟩ ∧
      l.insertedAt = inserted.join ∧ l.userName = user.join ∧ l.recordingMsid = msid.join := by
  obtain ⟨listened, inserted, user, msid, track, extra⟩ := l'
  obtain ⟨a, hlistened, hmore⟩ := bind_eq_ok_iff.1 h
  obtain ⟨b, htrack, heq⟩ := bind_eq_ok_iff.1 hmore
  obtain rfl := required_eq_ok hlistened
  obtain rfl := required_eq_ok htrack
  obtain rfl := Except.ok.inj heq
  exact ⟨inserted, user, msid, rfl, rfl, rfl, rfl⟩

omit [RealReading] in
theorem PartialListen.filter_value? {l' : PartialListen} {l : Listen} {cur : Cursor} {track : Json}
    (h : l'.complete cur = .ok l) (htrack : TrackMetadata.withoutUnset track = l.track.inOrder)
    (key : String) :
    ((l'.value? track key).map (Listen.memberWithoutUnset key)).filter
        (Json.isSet ["inserted_at", "user_name", "recording_msid"] key) =
      l.written.value? l.track.inOrder key := by
  obtain ⟨inserted, user, msid, rfl, hinserted, huser, hmsid⟩ := complete_eq_ok h
  -- only the member of the track is changed, and it is never left out
  by_cases hkey : key = "track_metadata"
  · simp [value?, hkey, Listen.memberWithoutUnset, htrack, Json.isSet]
  · have hmember : Listen.memberWithoutUnset key = id := by
      funext json
      simp [Listen.memberWithoutUnset, hkey]
    simp only [value?, Listen.written, hinserted, huser, hmsid, hmember, Option.map_id_fun, id]
    split_ifs with hkey hkey hkey hkey
    · simp [hkey, Json.isSet]
    · rcases inserted with _ | _ | time <;> simp [hkey, orNull, intJson, Json.isSet, Json.isNull]
    · rcases user with _ | _ | name <;> simp [hkey, orNull, Json.isSet, Json.isNull]
    · rcases msid with _ | _ | name <;> simp [hkey, orNull, Json.isSet, Json.isNull]
    · cases l.extra.get? key <;> simp [Option.filter, Json.isSet, *]

theorem Listen.takesValue_reader :
    TakesValue (Listen.reader (depth + 3)) (depth + 3) fun l json =>
      withoutUnset json = l.inOrder := by
  intro cur l cur' h
  have hl := Listen.readable_of_reader h
  obtain ⟨inner, rest, hdepth, hrest, hbody⟩ := braced_eq_ok h
  obtain rfl := Nat.succ.inj hdepth
  simp only [bind_eq_ok_iff, pure_eq_ok, Except.ok.injEq, Prod.mk.injEq, Prod.exists] at hbody
  obtain ⟨l', after, hmembers, l, hcomplete, rfl, rfl⟩ := hbody
  obtain ⟨fields, ⟨given, hfields, hgiven⟩, hvalue⟩ :=
    value_of_members PartialListen.holds_member PartialListen.holds_empty hrest hmembers
  -- a listen is complete only if a track was given
  obtain ⟨track, rfl, htrack⟩ : ∃ track, given = some track ∧
      TrackMetadata.withoutUnset track = l.track.inOrder := by
    obtain ⟨_, _, _, rfl, -⟩ := PartialListen.complete_eq_ok hcomplete
    cases hgiven with
    | some htrack => exact ⟨_, rfl, htrack⟩
  refine ⟨.object fields.toFields, congrArg Json.object ?_, hvalue⟩
  have hmapped := Fields.sorted_map (f := memberWithoutUnset) fields.sorted
  let written := SortedFields.ofList (l.members l.track.inOrder)
  refine Fields.ext_get? (Fields.sorted_filter _ hmapped) written.sorted fun key => ?_
  rw [Fields.get?_filter (Json.isSet _) hmapped, Fields.get?_map memberWithoutUnset,
    show fields.toFields.get? key = _ from hfields key,
    PartialListen.filter_value? hcomplete htrack,
    show written.toFields.get? key = _ from SortedFields.get?_ofList (nodup_members hl _),
    get?_members hl]

theorem Listen.exists_read_of_read {line : String} {l : Listen} (h : Listen.read line = .ok l) :
    ∃ json, Json.read line = .ok json ∧ withoutUnset json = l.inOrder := by
  obtain ⟨⟨l', cur⟩, hreader, hfinish⟩ := bind_eq_ok_iff.1 h
  obtain ⟨hrest, rfl⟩ := finish_eq_ok_iff.1 hfinish
  have htakes : TakesValue (reader depthLimit) depthLimit fun l json =>
    withoutUnset json = l.inOrder := takesValue_reader
  obtain ⟨json, hjson, hvalue⟩ := htakes _ _ _ hreader
  exact ⟨json, bind_eq_ok_iff.2 ⟨_, hvalue, finish_eq_ok_iff.2 ⟨hrest, rfl⟩⟩, hjson⟩

/-- A listen is written as it was read: the line that is written holds the same object without the
optional fields that are null. No name is written twice, and the line is read and written back
unchanged. -/
theorem Listen.written_of_readLine (hnearest : RealReading.IsNearest) {line : List UInt8}
    {l : Listen} (h : readLine line = some (.ok l)) :
    ∃ text json, decodeUtf8 (stripEnd line) = some text ∧ Json.read text = .ok json ∧
      decodeUtf8 (stripEnd (lineBytes l)) = some l.line ∧
      Json.read l.line = .ok (withoutUnset json) ∧
      (∀ key ∉ names, (withoutUnset json).get? key = json.get? key) ∧
      (∀ key ∉ TrackMetadata.names,
        ((withoutUnset json).get? "track_metadata").bind (·.get? key) =
          (json.get? "track_metadata").bind (·.get? key)) ∧
      l.toJson.Distinct ∧ (readAll (lineBytes l)).map (·.map lineBytes) = [.ok (lineBytes l)] := by
  obtain ⟨text, hdecode, hread⟩ := readLine_eq_some_ok h
  have hl := readable_of_read hread
  obtain ⟨json, hjson, hwithout⟩ := exists_read_of_read hread
  refine ⟨text, json, hdecode, hjson, ?_, ?_, get?_withoutUnset json, get?_track_withoutUnset json,
    distinct_toJson hl, ?_⟩
  · rw [stripEnd_lineBytes, decodeUtf8_utf8Of]
  · rw [hwithout, read_line_eq_inOrder hnearest hl]
  · have hone : ∀ other ∈ [l], other.Readable infoDepth := List.forall_mem_singleton.2 hl
    have hagain := readAll_writeAll_of_readable hnearest hone
    rw [writeAll, List.flatMap_singleton] at hagain
    rw [hagain]
    rfl

end

namespace Listen

def mixedLine : String :=
  "\x7b\"track_metadata\":\x7b\"release_name\":null,\"track_name\":\"T\"," ++
    "\"artist_name\":\"A\"\x7d,\"a\":1,\"user_name\":null,\"listened_at\":5,\"a\":[null]\x7d"

def mixed : Listen :=
  ⟨5, none, none, none, ⟨"A", "T", none, none, .empty⟩,
    ⟨[("a", .array [.null])], by decide⟩⟩

set_option maxRecDepth 8000 in
theorem read_mixedLine : @read nearestReading mixedLine = .ok mixed := by
  delta read reader PartialListen.member TrackMetadata.reader PartialTrack.member Cursor.value
  rfl

theorem printable_mixedLine :
    Printable mixedLine.toList ∧ Text.allBlank mixedLine.toList = false := by decide +kernel

theorem written_mixedLine :
    let _ := nearestReading
    readLine (utf8Of mixedLine.toList ++ [10]) = some (.ok mixed) ∧
      ∃ json, Json.read mixedLine = .ok json ∧ Json.read mixed.line = .ok (withoutUnset json) ∧
        mixed.toJson.Distinct ∧
        (readAll (lineBytes mixed)).map (·.map lineBytes) = [.ok (lineBytes mixed)] := by
  let _ := nearestReading
  obtain ⟨hprintable, hblank⟩ := printable_mixedLine
  have hread := readLine_text hprintable hblank read_mixedLine
  obtain ⟨text, json, hdecode, hjson, -, hwritten, -, -, hdistinct, hagain⟩ :=
    written_of_readLine isNearest_nearestReading hread
  rw [stripEnd_utf8Of hprintable, decodeUtf8_utf8Of, Option.some.injEq] at hdecode
  subst hdecode
  exact ⟨hread, json, hjson, hwritten, hdistinct, hagain⟩

end Listen

end ListenQuery

import ListenQuery.Proofs.Listen.Readable

/-!
# Lines read back

A listen that can be read is read back from its line: each of its fields is taken in turn, those
that are left out stay unset, and the uninterpreted ones are gathered in their order.
-/

namespace ListenQuery

open Cursor Number

section

variable [RealReading] (hnearest : RealReading.IsNearest) {depth : Nat}

include hnearest

theorem reads_unknown {names : List String} (fields : SortedFields Json)
    {members : SortedFields Json} (hmembers : members.Unknown depth names)
    {added : String × Json} (hadded : added ∈ members.toFields) :
    added.1 ∉ names ∧ Reads (objectMember (value depth) fields added.1) (':' :: added.2.compact)
      (fields.insert added.1 added.2) :=
  ⟨hmembers.names added hadded,
    reads_objectMember (reads_compact hnearest (hmembers.readable added hadded)) fields
      added.1⟩

namespace PartialTrack

omit hnearest in
theorem member_unknown {t : PartialTrack} {name : String} (hname : name ∉ TrackMetadata.names) :
    member depth t name = (fun cur => do
      let (extra, cur) ← objectMember (value depth) t.extra name cur
      pure ({ t with extra }, cur)) := by
  unfold member
  simp only [TrackMetadata.names, List.mem_cons, not_or] at hname
  split <;> simp_all

theorem leads_toJson {t : TrackMetadata} (ht : t.Readable depth) :
    Leads .compact (member (depth + 1)) empty
      ([("artist_name", .string t.artistName), ("track_name", .string t.trackName)] ++
        member? "release_name" .string t.releaseName ++
        member? "additional_info" (.object ·.toFields) t.additionalInfo ++ t.extra.toFields)
      ⟨some t.artistName, some t.trackName, t.releaseName.map some, t.additionalInfo.map some,
        t.extra⟩ := by
  obtain ⟨artist, track, release, info, extra⟩ := t
  have hnames : Leads .compact (member (depth + 1)) empty
      [("artist_name", .string artist), ("track_name", .string track)]
      ⟨some artist, some track, none, none, .empty⟩ := by
    have hartist := (reads_onlyOnce "artist_name" (reads_text "a string" artist)).map
      fun x => mk (some x) none none none .empty
    have htrack := (reads_onlyOnce "track_name" (reads_text "a string" track)).map
      fun x => mk (some artist) (some x) none none .empty
    exact .cons hartist (.cons htrack (.nil _))
  have hrelease : Leads .compact (member (depth + 1)) ⟨some artist, some track, none, none, .empty⟩
      (member? "release_name" .string release)
      ⟨some artist, some track, release.map some, none, .empty⟩ := by
    refine leads_member? (mk (some artist) (some track) · none .empty) release ?_
    intro name _
    exact (reads_onlyOnce "release_name" (reads_optional_text "a string" name)).map
      fun x => mk (some artist) (some track) (some x) none .empty
  have hinfo : Leads .compact (member (depth + 1))
      ⟨some artist, some track, release.map some, none, .empty⟩
      (member? "additional_info" (.object ·.toFields) info)
      ⟨some artist, some track, release.map some, info.map some, .empty⟩ := by
    refine leads_member? (mk (some artist) (some track) (release.map some) · .empty) info ?_
    intro fields hfields
    exact (reads_onlyOnce "additional_info"
      (reads_optional rfl (by decide) (reads_fieldsOf hnearest (ht.info fields hfields)))).map
        fun x => mk (some artist) (some track) (release.map some) (some x) .empty
  have hextra : Leads .compact (member (depth + 1))
      ⟨some artist, some track, release.map some, info.map some, .empty⟩ extra.toFields
      ⟨some artist, some track, release.map some, info.map some, extra⟩ := by
    refine leads_insert (mk (some artist) (some track) (release.map some) (info.map some)) ?_
    intro added hadded fields
    obtain ⟨hname, hread⟩ := reads_unknown hnearest fields ht.extra hadded
    rw [member_unknown hname]
    exact hread.map _
  exact ((hnames.append hrelease).append hinfo).append hextra

end PartialTrack

theorem TrackMetadata.reads_toJson {t : TrackMetadata} (ht : t.Readable depth) :
    Reads (TrackMetadata.reader (depth + 2)) t.toJson.compact t := by
  refine reads_braced "struct TrackMetadata" fun rest p => ?_
  obtain ⟨p', hmembers⟩ := members_compactMembers (PartialTrack.leads_toJson hnearest ht) rest p
  refine ⟨p', ?_⟩
  rw [hmembers]
  obtain ⟨artist, track, release, info, extra⟩ := t
  cases release <;> cases info <;> rfl

namespace PartialListen

omit hnearest in
theorem member_unknown {l : PartialListen} {name : String} (hname : name ∉ Listen.names) :
    member depth l name = (fun cur => do
      let (extra, cur) ← objectMember (value depth) l.extra name cur
      pure ({ l with extra }, cur)) := by
  unfold member
  simp only [Listen.names, List.mem_cons, not_or] at hname
  split <;> simp_all

theorem leads_toJson {l : Listen} (hl : l.Readable depth) :
    Leads .compact (member (depth + 2)) empty
      ([("listened_at", intJson l.listenedAt)] ++ member? "inserted_at" intJson l.insertedAt ++
        member? "user_name" .string l.userName ++
        member? "recording_msid" .string l.recordingMsid ++
        [("track_metadata", l.track.toJson)] ++ l.extra.toFields)
      ⟨some l.listenedAt, l.insertedAt.map some, l.userName.map some, l.recordingMsid.map some,
        some l.track, l.extra⟩ := by
  obtain ⟨listened, inserted, user, msid, track, extra⟩ := l
  have hlistened : Leads .compact (member (depth + 2)) empty [("listened_at", intJson listened)]
      ⟨some listened, none, none, none, none, .empty⟩ := by
    refine .cons ?_ (.nil _)
    exact (reads_onlyOnce "listened_at" (reads_int64 listened)).map
      fun x => mk (some x) none none none none .empty
  have hinserted : Leads .compact (member (depth + 2))
      ⟨some listened, none, none, none, none, .empty⟩
      (member? "inserted_at" intJson inserted)
      ⟨some listened, inserted.map some, none, none, none, .empty⟩ := by
    refine leads_member? (mk (some listened) · none none none .empty) inserted ?_
    intro time _
    exact (reads_onlyOnce "inserted_at" (reads_optional_int64 time)).map
      fun x => mk (some listened) (some x) none none none .empty
  have huser : Leads .compact (member (depth + 2))
      ⟨some listened, inserted.map some, none, none, none, .empty⟩ (member? "user_name" .string user)
      ⟨some listened, inserted.map some, user.map some, none, none, .empty⟩ := by
    refine leads_member? (mk (some listened) (inserted.map some) · none none .empty) user ?_
    intro name _
    exact (reads_onlyOnce "user_name" (reads_optional_text "a string" name)).map
      fun x => mk (some listened) (inserted.map some) (some x) none none .empty
  have hmsid : Leads .compact (member (depth + 2))
      ⟨some listened, inserted.map some, user.map some, none, none, .empty⟩
      (member? "recording_msid" .string msid)
      ⟨some listened, inserted.map some, user.map some, msid.map some, none, .empty⟩ := by
    refine leads_member?
      (mk (some listened) (inserted.map some) (user.map some) · none .empty) msid ?_
    intro name _
    exact (reads_onlyOnce "recording_msid" (reads_optional_text "a string" name)).map
      fun x => mk (some listened) (inserted.map some) (user.map some) (some x) none .empty
  have htrack : Leads .compact (member (depth + 2))
      ⟨some listened, inserted.map some, user.map some, msid.map some, none, .empty⟩
      [("track_metadata", track.toJson)]
      ⟨some listened, inserted.map some, user.map some, msid.map some, some track, .empty⟩ := by
    refine .cons ?_ (.nil _)
    exact (reads_onlyOnce "track_metadata" (track.reads_toJson hnearest hl.track)).map
      fun x => mk (some listened) (inserted.map some) (user.map some) (msid.map some) (some x) .empty
  have hextra : Leads .compact (member (depth + 2))
      ⟨some listened, inserted.map some, user.map some, msid.map some, some track, .empty⟩
      extra.toFields
      ⟨some listened, inserted.map some, user.map some, msid.map some, some track, extra⟩ := by
    refine leads_insert
      (mk (some listened) (inserted.map some) (user.map some) (msid.map some) (some track)) ?_
    intro added hadded fields
    obtain ⟨hname, hread⟩ := reads_unknown hnearest fields hl.extra hadded
    rw [member_unknown hname]
    exact hread.map _
  exact ((((hlistened.append hinserted).append huser).append hmsid).append htrack).append hextra

end PartialListen

namespace Listen

theorem reads_toJson {l : Listen} (hl : l.Readable depth) :
    Reads (Listen.reader (depth + 3)) l.toJson.compact l := by
  refine reads_braced "struct Listen" fun rest p => ?_
  obtain ⟨p', hmembers⟩ := members_compactMembers (PartialListen.leads_toJson hnearest hl) rest p
  refine ⟨p', ?_⟩
  rw [hmembers]
  obtain ⟨listened, inserted, user, msid, track, extra⟩ := l
  cases inserted <;> cases user <;> cases msid <;> rfl

theorem read_line {l : Listen} (hl : l.Readable infoDepth) : Listen.read l.line = .ok l := by
  obtain ⟨p', hread⟩ := reads_toJson hnearest hl [] ⟨1, 0⟩ endsValue_nil
  rw [List.append_nil] at hread
  have hstart : start l.line = ⟨l.toJson.compact, ⟨1, 0⟩⟩ := by simp [start, line]
  rw [Listen.read, hstart]
  exact bind_eq_ok_iff.2 ⟨_, hread, rfl⟩

end Listen

end

end ListenQuery

import ListenQuery.Listen.Basic
import ListenQuery.Json.Typed
import ListenQuery.Json.Writer

/-!
# Listens as JSON

The fields of a listen are written in a fixed order, those that are not set are left out, and the
uninterpreted fields follow. Reading takes the fields in any order; `null` is the same as leaving
an optional field out, and a field of the listen itself must not be given twice.
-/

namespace ListenQuery

open Cursor Number

def member? {α : Type} (name : String) (json : α → Json) (value : Option α) : Fields Json :=
  match value with
  | some x => [(name, json x)]
  | none => []

def intJson (n : Int64) : Json :=
  .number (.integer n.toInt
    ⟨n.le_toInt, Int.lt_trans n.toInt_lt (by decide)⟩)

def TrackMetadata.toJson (t : TrackMetadata) : Json :=
  .object <|
    [("artist_name", .string t.artistName), ("track_name", .string t.trackName)] ++
      member? "release_name" .string t.releaseName ++
      member? "additional_info" (.object ·.toFields) t.additionalInfo ++ t.extra.toFields

def Listen.toJson (l : Listen) : Json :=
  .object <|
    [("listened_at", intJson l.listenedAt)] ++ member? "inserted_at" intJson l.insertedAt ++
      member? "user_name" .string l.userName ++ member? "recording_msid" .string l.recordingMsid ++
      [("track_metadata", l.track.toJson)] ++ l.extra.toFields

def Listen.line (l : Listen) : String := String.ofList l.toJson.compact

structure PartialTrack where
  artistName : Option String
  trackName : Option String
  releaseName : Option (Option String)
  additionalInfo : Option (Option (SortedFields Json))
  extra : SortedFields Json

namespace PartialTrack

def empty : PartialTrack := ⟨none, none, none, none, .empty⟩

def member [RealReading] (depth : Nat) (t : PartialTrack) (name : String) :
    Reader PartialTrack := fun cur => do
  match name with
  | "artist_name" =>
    let (x, cur) ← onlyOnce name t.artistName (text "a string") cur
    pure ({ t with artistName := some x }, cur)
  | "track_name" =>
    let (x, cur) ← onlyOnce name t.trackName (text "a string") cur
    pure ({ t with trackName := some x }, cur)
  | "release_name" =>
    let (x, cur) ← onlyOnce name t.releaseName (optional (text "a string")) cur
    pure ({ t with releaseName := some x }, cur)
  | "additional_info" =>
    let (x, cur) ← onlyOnce name t.additionalInfo (optional (fieldsOf depth value)) cur
    pure ({ t with additionalInfo := some x }, cur)
  | _ =>
    let (extra, cur) ← objectMember (value depth) t.extra name cur
    pure ({ t with extra }, cur)

def complete (t : PartialTrack) (cur : Cursor) : Except Fault TrackMetadata := do
  let artistName ← required "artist_name" t.artistName cur
  let trackName ← required "track_name" t.trackName cur
  pure ⟨artistName, trackName, t.releaseName.join, t.additionalInfo.join, t.extra⟩

end PartialTrack

def TrackMetadata.reader [RealReading] (depth : Nat) : Reader TrackMetadata :=
  braced "struct TrackMetadata" depth fun depth cur => do
    let (t, cur) ← cur.members (PartialTrack.member depth) PartialTrack.empty
    pure (← t.complete cur, cur)

/-- The fields of a listen as far as they have been read. -/
structure PartialListen where
  listenedAt : Option Int64
  insertedAt : Option (Option Int64)
  userName : Option (Option String)
  recordingMsid : Option (Option String)
  track : Option TrackMetadata
  extra : SortedFields Json

namespace PartialListen

def empty : PartialListen := ⟨none, none, none, none, none, .empty⟩

def member [RealReading] (depth : Nat) (l : PartialListen) (name : String) :
    Reader PartialListen := fun cur => do
  match name with
  | "listened_at" =>
    let (x, cur) ← onlyOnce name l.listenedAt int64 cur
    pure ({ l with listenedAt := some x }, cur)
  | "inserted_at" =>
    let (x, cur) ← onlyOnce name l.insertedAt (optional int64) cur
    pure ({ l with insertedAt := some x }, cur)
  | "user_name" =>
    let (x, cur) ← onlyOnce name l.userName (optional (text "a string")) cur
    pure ({ l with userName := some x }, cur)
  | "recording_msid" =>
    let (x, cur) ← onlyOnce name l.recordingMsid (optional (text "a string")) cur
    pure ({ l with recordingMsid := some x }, cur)
  | "track_metadata" =>
    let (x, cur) ← onlyOnce name l.track (TrackMetadata.reader depth) cur
    pure ({ l with track := some x }, cur)
  | _ =>
    let (extra, cur) ← objectMember (value depth) l.extra name cur
    pure ({ l with extra }, cur)

def complete (l : PartialListen) (cur : Cursor) : Except Fault Listen := do
  let listenedAt ← required "listened_at" l.listenedAt cur
  let track ← required "track_metadata" l.track cur
  pure ⟨listenedAt, l.insertedAt.join, l.userName.join, l.recordingMsid.join, track, l.extra⟩

end PartialListen

def Listen.reader [RealReading] (depth : Nat) : Reader Listen :=
  braced "struct Listen" depth fun depth cur => do
    let (l, cur) ← cur.members (PartialListen.member depth) PartialListen.empty
    pure (← l.complete cur, cur)

def Listen.read [RealReading] (line : String) : Except Fault Listen := do
  let (l, cur) ← Listen.reader depthLimit (Cursor.start line)
  cur.finish l

end ListenQuery

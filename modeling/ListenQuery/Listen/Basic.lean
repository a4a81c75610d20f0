import ListenQuery.Attribute.Value

/-!
# Listens

A listen is one listening event: a time, and the metadata of the track with free-form additional
information. Fields that the library does not interpret are kept as they are.

Attributes are addressed by name. The primary ones are stored in the track metadata and hide an
entry of the additional information of the same name; a release that is not named hides nothing.
-/

namespace ListenQuery

structure TrackMetadata where
  artistName : String
  trackName : String
  releaseName : Option String
  additionalInfo : Option (SortedFields Json)
  extra : SortedFields Json

structure Listen where
  listenedAt : Int64
  insertedAt : Option Int64
  userName : Option String
  recordingMsid : Option String
  track : TrackMetadata
  extra : SortedFields Json

inductive PrimaryKey
  | artist
  | track
  | release
  deriving DecidableEq

def PrimaryKey.ofName (key : String) : Option PrimaryKey :=
  if key = "artist_name" then some .artist
  else if key = "track_name" then some .track
  else if key = "release_name" then some .release
  else none

namespace TrackMetadata

def primary (t : TrackMetadata) : PrimaryKey → Option String
  | .artist => some t.artistName
  | .track => some t.trackName
  | .release => t.releaseName

def setPrimary (t : TrackMetadata) (value : String) : PrimaryKey → TrackMetadata
  | .artist => { t with artistName := value }
  | .track => { t with trackName := value }
  | .release => { t with releaseName := some value }

/-- Adds an entry to the additional information, which is created if need be. -/
def insertInfo (t : TrackMetadata) (key : String) (value : Json) : TrackMetadata :=
  { t with additionalInfo := some ((t.additionalInfo.getD .empty).insert key value) }

end TrackMetadata

namespace Listen

def ofNames (listenedAt : Int64) (artistName trackName : String) : Listen :=
  ⟨listenedAt, none, none, none, ⟨artistName, trackName, none, none, .empty⟩, .empty⟩

def primary (l : Listen) (key : String) : Option Value :=
  ((PrimaryKey.ofName key).bind l.track.primary).map .text

def metadata (l : Listen) (key : String) : Option Value :=
  (l.track.additionalInfo.bind (·.get? key)).map .ofJson

def get (l : Listen) (key : String) : Value :=
  ((l.primary key).or (l.metadata key)).getD .absent

def insertInfo (l : Listen) (key : String) (value : Json) : Listen :=
  { l with track := l.track.insertInfo key value }

def setMetadata (l : Listen) (key value : String) : Listen := l.insertInfo key (.string value)

/-- The listen with a primary attribute set, if the key is a primary one. -/
def setPrimary? (l : Listen) (key value : String) : Option Listen :=
  (PrimaryKey.ofName key).map fun k => { l with track := l.track.setPrimary value k }

/-- Gives an attribute a text: a primary attribute if the key is one, else additional
information. -/
def set (l : Listen) (key value : String) : Listen :=
  (l.setPrimary? key value).getD (l.setMetadata key value)

end Listen

end ListenQuery

import ListenQuery.Changed
import ListenQuery.Files.Path
import ListenQuery.Files.Sink

/-!
# File systems

A file system is a tree of directories and files below the working directory, kept as the list of
its entries. Every directory that leads to an entry is an entry too. Looking a path up goes from
directory to directory; two dots go back up. What is written to a file goes through the sink of its
place.
-/

namespace ListenQuery

inductive Node
  | file (content : List UInt8)
  | directory
  deriving DecidableEq

/-- The place of an entry: the names that lead to it. -/
abbrev Place := List String

structure FileSystem where
  entries : List (Place × Node)
  sink : Place → Sink

namespace FileSystem

def empty : FileSystem := ⟨[], fun _ => .whole⟩

def node? (fs : FileSystem) (place : Place) : Option Node :=
  if place.all (· = "..") || place = ["/"] then some .directory else fs.entries.lookup place

def set (fs : FileSystem) (place : Place) (node : Node) : FileSystem :=
  { fs with entries := (place, node) :: fs.entries.filter (·.1 ≠ place) }

/-- Whether a place is a directory, or why it is not. -/
def requireDirectory (fs : FileSystem) (place : Place) : Except FileError Unit :=
  match fs.node? place with
  | none => .error .notFound
  | some (.file _) => .error .notDirectory
  | some .directory => .ok ()

def up (place : Place) : Place :=
  if place = ["/"] then place
  else match place.getLast? with
    | none => [".."]
    | some ".." => place ++ [".."]
    | some _ => place.dropLast

def enter (place : Place) (name : String) : Place :=
  if name = ".." then up place else place ++ [name]

def nameLimit : Nat := 255

def pathLimit : Nat := 4095

/-- Follows names from a directory. What the last name leads to may be missing. -/
def follow (fs : FileSystem) : Place → List String → Except FileError Place
  | place, [] => .ok place
  | place, name :: rest => do
    fs.requireDirectory place
    if nameLimit < name.utf8ByteSize then .error .nameTooLong
    else follow fs (enter place name) rest

def startOf (p : Path) : Place := if p.isAbsolute then ["/"] else []

def placeOf (fs : FileSystem) (p : Path) : Except FileError Place :=
  if p.hasNul then .error .nulInPath
  else if p.isEmpty then .error .notFound
  else if pathLimit < p.utf8ByteSize then .error .nameTooLong
  else do
    let place ← fs.follow (startOf p) p.steps
    if p.endsInDot then fs.requireDirectory place
    pure place

def resolve (fs : FileSystem) (p : Path) : Except FileError (Place × Node) := do
  let place ← fs.placeOf p
  match fs.node? place with
  | none => .error .notFound
  | some (.file content) =>
    if p.asksForDirectory then .error .notDirectory else .ok (place, .file content)
  | some .directory => .ok (place, .directory)

def pathExists (fs : FileSystem) (p : Path) : Bool := (fs.resolve p).toOption.isSome

def isDirectory (fs : FileSystem) (p : Path) : Bool :=
  match fs.resolve p with
  | .ok (_, .directory) => true
  | _ => false

def readBytes (fs : FileSystem) (p : Path) : Except FileError (List UInt8) := do
  match ← fs.resolve p with
  | (_, .file content) => .ok content
  | (_, .directory) => .error .isDirectory

def readText (fs : FileSystem) (p : Path) : Except FileError String := do
  let bytes ← fs.readBytes p
  match String.fromUTF8? ⟨bytes.toArray⟩ with
  | some text => .ok text
  | none => .error .notUtf8

/-- The place of a file that can be written, whether it exists or not. A path that asks for a
directory never leads to one. -/
def writablePlace (fs : FileSystem) (p : Path) : Except FileError Place := do
  let place ← fs.placeOf p
  if p.asksForDirectory then .error .isDirectory
  else match fs.node? place with
    | some .directory => .error .isDirectory
    | _ => .ok place

def create (fs : FileSystem) (p : Path) : Except FileError (Place × FileSystem) := do
  let place ← fs.writablePlace p
  .ok (place, fs.set place (.file []))

/-- Writes a file anew. One that has been created before a failure stays, with what has come
through. -/
def write (fs : FileSystem) (p : Path) (content : List UInt8) : Changed FileSystem FileError :=
  match fs.create p with
  | .error e => ⟨fs, .error e⟩
  | .ok (place, created) =>
    let sink := fs.sink place
    ⟨created.set place (.file (sink.through content)),
      match sink.fault? content with
      | some e => .error e
      | none => .ok ()⟩

def makeDirectory (fs : FileSystem) (p : Path) : Except FileError FileSystem := do
  let place ← fs.placeOf p
  match fs.node? place with
  | some _ => .error .alreadyExists
  | none => .ok (fs.set place .directory)

def ensureDirectory (fs : FileSystem) (p : Path) : Changed FileSystem FileError :=
  match fs.makeDirectory p with
  | .ok fs => ⟨fs, .ok ()⟩
  | .error e => ⟨fs, if fs.isDirectory p then .ok () else .error e⟩

/-- Creates the directories of a path that are missing, in at most `steps` steps up. Those that
have been created before a failure stay. -/
def makeDirectoriesWithin : Nat → FileSystem → Path → Changed FileSystem FileError
  | 0, fs, _ => ⟨fs, .error .notFound⟩
  | steps + 1, fs, p =>
    if p.isEmpty then ⟨fs, .ok ()⟩
    else match fs.makeDirectory p with
      | .error .notFound =>
        match p.parent? with
        | none => ⟨fs, .error .notFound⟩
        | some parent =>
          let above := makeDirectoriesWithin steps fs parent
          match above.result with
          | .ok _ => above.now.ensureDirectory p
          | .error _ => above
      | _ => fs.ensureDirectory p

def makeDirectories (fs : FileSystem) (p : Path) : Changed FileSystem FileError :=
  makeDirectoriesWithin (p.components.length + 1) fs p

end FileSystem

end ListenQuery

import ListenQuery.Command.Basic
import ListenQuery.Command.Explain
import ListenQuery.Command.Failure
import ListenQuery.Config.File
import ListenQuery.Config.Set

/-!
# Running a command

A command runs on a file system, an environment, an input stream and a sink for its output. It
leaves the file system that it makes of it, what comes through to the standard output, its log, and
perhaps a failure. What has been written before a failure stays written.
-/

namespace ListenQuery

open Number

structure World where
  files : FileSystem
  environment : Environment
  input : List UInt8
  output : Sink
  /-- What completes arguments in a shell. -/
  script : String → String

structure Outcome where
  files : FileSystem
  output : List UInt8
  events : List Event
  failure : Option Failure

namespace Outcome

def exitCode (o : Outcome) : Nat :=
  match o.failure with
  | none => 0
  | some f => f.exitCode

def report (o : Outcome) : String :=
  match o.failure with
  | none => ""
  | some f => f.report

end Outcome

def utf8 (text : String) : List UInt8 := text.toUTF8.toList

namespace Sink

/-- Prints texts one after another, each at once, up to the first that cannot be printed. The result
has what the sink has been given. -/
def print (s : Sink) (given : List UInt8) : List String → List UInt8 × Option FileError
  | [] => (given, none)
  | text :: rest =>
    let given := given ++ utf8 text
    match s.fault? given with
    | some e => (given, some e)
    | none => s.print given rest

/-- Why the line of a listen cannot be written, if it cannot, and what has been given of it. The
text of the listen and the end of the line are written one after the other. -/
def lineFault? (s : Sink) (given : List UInt8) (l : Listen) : Option (List UInt8 × Failure) :=
  match s.write? (given ++ utf8 l.line) with
  | some e => some (utf8 l.line, .unserialized e)
  | none => (s.write? (given ++ l.lineBytes)).map fun e => (l.lineBytes, .unwritten e)

end Sink

namespace World

def fail (w : World) (failure : Failure) : Outcome := ⟨w.files, [], [], some failure⟩

def print (w : World) (texts : List String) : Outcome :=
  let printed := w.output.print [] texts
  ⟨w.files, w.output.through printed.1, [], printed.2.map .unprinted⟩

/-- The sink of the standard output, or of the file at a place. -/
def sink (w : World) : Option Place → Sink
  | none => w.output
  | some place => w.files.sink place

/-- Where the configuration is, and what it holds. -/
def load [RealReading] (w : World) (given : Option Path) : Except ConfigError (Path × Config) := do
  let path ← Config.path w.environment given
  let c ← Config.load w.files path
  pure (path, c)

end World

def Selection.build [RealReading] (s : Selection) (c : Config) (fs : FileSystem) :
    Logged Failure (Filter × Modifier) := do
  let text ← .ofExcept ((c.combine s.filter s.presets).mapError .config)
  let options : FilterOptions := { FilterOptions.none with
    filter := text, after := s.after, before := s.before }
  let options ← .ofExcept ((c.addLists fs options s.excluded s.included).mapError .config)
  let filter ← (Filter.build options).mapError .expression
  let modifier ← (Modifier.build s.edits).mapError .expression
  pure (filter, modifier)

structure Tally where
  kept : Nat
  total : Nat
  written : List UInt8
  events : List Event
  failure : Option Failure

namespace Tally

def empty : Tally := ⟨0, 0, [], [], none⟩

def after (events : List Event) (t : Tally) : Tally := { t with events := events ++ t.events }

def drop (t : Tally) : Tally := { t with total := t.total + 1 }

def keep (written : List UInt8) (t : Tally) : Tally :=
  { t with kept := t.kept + 1, total := t.total + 1, written := written ++ t.written }

def fail (failure : Failure) (written : List UInt8) : Tally :=
  { empty with failure := some failure, written }

end Tally

/-- Runs over listens, of which those that are kept are written to a sink after the bytes that it
has been given before, or only counted. -/
def runListens (f : Filter) (m : Modifier) (s : Sink) (write : Bool) (given : List UInt8) :
    List (Except LineError Listen) → Tally
  | [] => .empty
  | .error e :: _ => .fail (.line e) []
  | .ok l :: rest =>
    let verdict := f.accepts l
    Tally.after verdict.events <|
      match verdict.result with
      | .error e => .fail (.expression e) []
      | .ok false => (runListens f m s write given rest).drop
      | .ok true =>
        if write then
          let l := m.apply l
          match s.lineFault? given l with
          | some (written, failure) => .fail failure written
          | none => (runListens f m s write (given ++ l.lineBytes) rest).keep l.lineBytes
        else (runListens f m s write given rest).keep []

def isStandardInput (input : Option Path) : Bool :=
  match input with
  | none => true
  | some p => p.components = ["-"]

/-- An input that has been opened: the standard one, a file, or a directory that cannot be read. -/
inductive Source
  | standard
  | file (place : Place)
  | directory

def openSource (fs : FileSystem) (input : Option Path) : Except Failure Source :=
  match input with
  | none => .ok .standard
  | some p =>
    if isStandardInput input then .ok .standard
    else match fs.resolve p with
      | .error e => .error (.unopenable p e)
      | .ok (place, .file _) => .ok (.file place)
      | .ok (_, .directory) => .ok .directory

/-- The listens of a source, as it is when reading begins. -/
def Source.listens [RealReading] (w : World) : Source → List (Except LineError Listen)
  | standard => Listen.readAll w.input
  | file place =>
    match w.files.node? place with
    | some (.file content) => Listen.readAll content
    | _ => []
  | directory => [.error ⟨1, .unreadable .isDirectory⟩]

/-- Opens the output file, which empties it. -/
def openTarget (fs : FileSystem) (output : Option Path) :
    Except Failure (Option Place × FileSystem) :=
  match output with
  | none => .ok (none, fs)
  | some p =>
    match fs.create p with
    | .error e => .error (.uncreatable p e)
    | .ok (place, fs) => .ok (some place, fs)

def countLine (kept total : Nat) : List UInt8 :=
  utf8 (natString kept ++ "/" ++ natString total ++ "\n")

def deliver (w : World) (target : Option Place) (given : List UInt8) (events : List Event)
    (failure : Option Failure) : Outcome :=
  let through := (w.sink target).through given
  match target with
  | none => ⟨w.files, through, events, failure⟩
  | some place => ⟨w.files.set place (.file through), [], events, failure⟩

/-- Ends a run: its count is written where it has only counted, and what is written is flushed. -/
def finish (w : World) (target : Option Place) (count : Bool) (t : Tally) : Outcome :=
  match t.failure with
  | some e => deliver w target t.written t.events (some e)
  | none =>
    let given := if count then countLine t.kept t.total else t.written
    let sink := w.sink target
    match if count then sink.fault? given else sink.flush? given with
    | some e => deliver w target given t.events (some (.unwritten e))
    | none => deliver w target given (t.events ++ [.filteredListens t.kept t.total]) none

def runFilter [RealReading] (w : World) (f : Filter) (m : Modifier)
    (input output : Option Path) (count : Bool) : Outcome :=
  match openSource w.files input with
  | .error e => w.fail e
  | .ok source =>
    match openTarget w.files output with
    | .error e => w.fail e
    | .ok (target, files) =>
      let w := { w with files }
      finish w target count (runListens f m (w.sink target) (! count) [] (source.listens w))

/-- What is printed of the problems of a configuration. -/
def verdictTexts (path : Path) (problems : List String) : List String :=
  if problems.isEmpty then ["✓ Configuration is valid: " ++ path ++ "\n"]
  else
    ("✗ Configuration has " ++ natString problems.length ++ " error(s): " ++ path ++ "\n") ::
      "\n" :: problems.map ("  - " ++ · ++ "\n")

def runConfig [RealReading] (w : World) (c : Config) (path : Path) : ConfigCommand → Outcome
  | .showAll => w.print [c.text ++ "\n"]
  | .path => w.print [path ++ "\n"]
  | .set key value =>
    let changed := c.set key value
    match changed.result with
    | .error e => w.fail (.config e)
    | .ok _ =>
      let saved := changed.now.save w.files path
      let w := { w with files := saved.now }
      match saved.result with
      | .error e => w.fail (.config e)
      | .ok _ => w.print ["Set " ++ key ++ " = " ++ value ++ "\n"]
  | .verify =>
    match Config.verify w.files path with
    | .error e => w.fail (.config e)
    | .ok problems =>
      let printed := w.print (verdictTexts path problems)
      if problems.isEmpty then printed
      else { printed with failure := printed.failure.or (some (.invalidConfig problems.length)) }

def withSelection [RealReading] (w : World) (c : Config) (s : Selection)
    (run : Filter → Modifier → Outcome) : Outcome :=
  let built := s.build c w.files
  let outcome := match built.result with
    | .error e => w.fail e
    | .ok (f, m) => run f m
  { outcome with events := built.events ++ outcome.events }

def Command.run [RealReading] (w : World) (c : Config) (path : Path) : Command → Outcome
  | .filter input selection output count =>
    withSelection w c selection fun f m => runFilter w f m input output count
  | .explain selection json =>
    withSelection w c selection fun f m => w.print ((Explanation.of f m).texts json)
  | .config command => runConfig w c path command
  | .completions shell => w.print [w.script shell]

/-- The paths that a command may look at, those of the configuration apart. -/
def Command.paths : Command → List Path
  | .filter input selection output _ =>
    input.toList ++ output.toList ++ selection.excluded.toList ++ selection.included.toList
  | .explain selection _ => selection.excluded.toList ++ selection.included.toList
  | _ => []

def Command.readsStandardInput : Command → Bool
  | .filter input _ _ _ => isStandardInput input
  | _ => false

def Invocation.run [RealReading] (i : Invocation) (w : World) : Outcome :=
  match w.load i.configPath with
  | .error e => w.fail (.config e)
  | .ok (path, c) => i.command.run w c path

end ListenQuery

import ListenQuery.Command.Run

/-!
# The program

The files and directories that a command may look at are taken into a file system, the command
runs on it, and what it has changed there is carried out.
-/

namespace ListenQuery.Program

def nodeAt (p : Path) : IO (Option Node) := do
  let target := (← IO.currentDir) / p
  if ← target.isDir then return some .directory
  if ← target.pathExists then return some (.file (← IO.FS.readBinFile target).toList)
  return none

/-- The places that a path leads through, each with a path of its own. -/
def placesAlong (p : Path) : List (Place × Path) :=
  (List.range p.steps.length).map fun n =>
    let names := p.steps.take (n + 1)
    (names.foldl FileSystem.enter (FileSystem.startOf p),
      (if p.isAbsolute then "/" else "") ++ "/".intercalate names)

def explore (fs : FileSystem) (p : Path) : IO FileSystem :=
  (placesAlong p).foldlM (fun fs (place, leading) => do
    match ← nodeAt leading with
    | some node => return fs.set place node
    | none => return fs) fs

def pathOf : Place → Path
  | "/" :: names => "/" ++ "/".intercalate names
  | names => "/".intercalate names

def carryOut (before after : FileSystem) : IO Unit :=
  after.entries.reverse.forM fun (place, node) => do
    if before.node? place ≠ some node then
      match node with
      | .directory => IO.FS.createDirAll (pathOf place)
      | .file content => IO.FS.writeBinFile (pathOf place) ⟨content.toArray⟩

partial def readAll (input : IO.FS.Stream) (read : ByteArray) : IO ByteArray := do
  let more ← input.read 65536
  if more.isEmpty then return read
  readAll input (read ++ more)

def listPaths (s : Settings) : List Path := s.excluded.toList ++ s.included.toList

def isShown (verbosity : Nat) (e : Event) : Bool :=
  match e.severity with
  | .warning => true
  | .info => 1 ≤ verbosity
  | .debug => 2 ≤ verbosity

/-- Writes to the standard output, or says why it cannot be written. -/
def print (output : List UInt8) : IO (Option FileError) := do
  try
    let stdout ← IO.getStdout
    stdout.write ⟨output.toArray⟩
    stdout.flush
    return none
  catch
    | .resourceExhausted .. => return some .noSpace
    | _ => return some .inputOutput

def conclude (i : Invocation) (o : Outcome) : IO UInt32 := do
  (o.events.filter (isShown i.verbosity)).forM fun e => IO.eprintln e.text
  if o.failure.isSome then IO.eprintln o.report
  return .ofNat o.exitCode

def run (i : Invocation) : IO UInt32 := do
  let home := (← IO.getEnv "HOME").filter (· ≠ "")
  let environment : Environment := ⟨← IO.getEnv "LISTEN_FILTER_CONFIG", home⟩
  let files ← match Config.path environment i.configPath with
    | .ok path => explore .empty path
    | .error _ => pure .empty
  let w : World := ⟨files, environment, [], .whole, fun _ => ""⟩
  let settings := match w.load i.configPath with
    | .ok (_, c) => c.settings
    | .error _ => .default
  let files ← (i.command.paths ++ listPaths settings).foldlM explore files
  let input ←
    if i.command.readsStandardInput then readAll (← IO.getStdin) .empty else pure .empty
  let w := { w with files, input := input.toList }
  let outcome := i.run w
  carryOut files outcome.files
  match ← print outcome.output with
  | none => conclude i outcome
  -- the command ends as it does where nothing of its output can be written
  | some cause => conclude i (i.run { w with output := .limited 0 0 cause })

def usageMessage : UsageError → String
  | .unknownArgument => "unexpected argument"
  | .invalidSubcommand => "unrecognized subcommand"
  | .invalidValue => "invalid or missing value"
  | .argumentConflict => "an argument cannot be used multiple times"
  | .missingRequiredArgument => "a required argument was not provided"
  | .missingSubcommand => "a subcommand is required"
  | .tooManyValues => "unexpected value"
  | .helpOnMissing => "commands: filter, explain, config, completions"
  | .help => "commands: filter, explain, config, completions"
  | .version => "listen-filter 0.1.0"

def stop (e : UsageError) : IO UInt32 := do
  if e.exitCode = 0 then IO.println (usageMessage e)
  else IO.eprintln ("error: " ++ usageMessage e)
  return .ofNat e.exitCode

end ListenQuery.Program

def main (args : List String) : IO UInt32 :=
  match ListenQuery.Invocation.read args with
  | .ok i => ListenQuery.Program.run i
  | .error e => ListenQuery.Program.stop e

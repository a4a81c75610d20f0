import ListenQuery.Config.Combine
import ListenQuery.Config.LogSetting

/-!
# Configuration files

A configuration is loaded from a file, the default one standing in for a file that does not exist,
and saved to one, whose directory is created. Verifying reads a file that must exist and lists
what is wrong with its values.
-/

namespace ListenQuery

open Number

/-- What tells where the configuration is: a variable of the environment and the home directory. -/
structure Environment where
  configPath : Option Path
  home : Option Path
  deriving DecidableEq, Repr

namespace Config

def defaultPath (home : Path) : Path :=
  (Path.join home ".listen-filter").join "config.json"

/-- The path that is given, else that of the environment, else the one in the home directory. -/
def path (env : Environment) (given : Option Path) : Except ConfigError Path :=
  match given.or env.configPath with
  | some p => .ok p
  | none =>
    match env.home with
    | some home => .ok (defaultPath home)
    | none => .error .noHome

def load [RealReading] (fs : FileSystem) (path : Path) : Except ConfigError Config :=
  if ! fs.pathExists path then .ok .default
  else match fs.readText path with
    | .error e => .error (.unreadable path e)
    | .ok text => (Config.read text).mapError (.malformed path)

/-- Writes a configuration. The directories that have been created for it stay, even if the file
itself cannot be written. -/
def save (fs : FileSystem) (c : Config) (path : Path) : Changed FileSystem ConfigError :=
  let prepared := match Path.parent? path with
    | some parent => fs.makeDirectories parent
    | none => ⟨fs, .ok ()⟩
  match prepared.result with
  | .error e => ⟨prepared.now, .error (.noDirectory e)⟩
  | .ok _ =>
    let written := prepared.now.write path c.text.toUTF8.toList
    ⟨written.now, written.result.mapError (.unwritable path)⟩

def presetProblems (c : Config) : List String :=
  c.presets.toFields.filterMap fun (name, text) =>
    match readFilter text with
    | .ok _ => none
    | .error e => some ("presets." ++ name ++ ": " ++ e.message)

def checkSource [RealReading] (fs : FileSystem) (path : Path) : Except ExpressionError Unit :=
  match fs.readText path with
  | .error e => .error (.unreadableList path e)
  | .ok content => (ListSource.entries ⟨path, content⟩).map fun _ => ()

def listProblems [RealReading] (fs : FileSystem) (field : String) (path : Option Path) :
    List String :=
  match path with
  | none => []
  | some p =>
    match checkSource fs p with
    | .ok _ => []
    | .error e => [field ++ ": " ++ e.message]

def logProblems (c : Config) : List String :=
  match LogSetting.check c.settings.log with
  | .ok _ => []
  | .error e => ["settings.log: " ++ e.message]

/-- What is wrong with the values of a configuration: its presets in order, its list sources and
its log setting. -/
def problems [RealReading] (fs : FileSystem) (c : Config) : List String :=
  c.presetProblems ++ listProblems fs "settings.exclude" c.settings.excluded ++
    listProblems fs "settings.include" c.settings.included ++ c.logProblems

def verify [RealReading] (fs : FileSystem) (path : Path) : Except ConfigError (List String) :=
  if ! fs.pathExists path then .error (.missing path)
  else match fs.readText path with
    | .error e => .error (.unreadableToVerify path e)
    | .ok text =>
      match Config.read text with
      | .error fault => .error (.invalidJson fault)
      | .ok c => .ok (c.problems fs)

end Config

end ListenQuery

import ListenQuery.Config.Basic
import ListenQuery.Config.Error
import ListenQuery.Filter.Build
import ListenQuery.Files.System

/-!
# Filters from presets

Presets are combined with a filter text into one conjunction, parts that are blank left out. List
sources that are named take the place of those of the settings.
-/

namespace ListenQuery

namespace Config

def presetTexts (c : Config) (names : List String) : Except ConfigError (List String) :=
  names.mapM fun name =>
    match c.presets.get? name with
    | some text => .ok text
    | none => .error (.unknownPreset name)

def isBlankText (text : String) : Bool := Text.allBlank text.toList

def conjoin (parts : List String) : Option String :=
  match parts.filter (! isBlankText ·) with
  | [] => none
  | parts => some (conjunction.intercalate parts)

def combine (c : Config) (filter : Option String) (presets : List String) :
    Except ConfigError (Option String) := do
  let texts ← c.presetTexts presets
  pure (conjoin (texts ++ filter.toList))

def loadSource (fs : FileSystem) (path : Option Path) :
    Except ExpressionError (Option ListSource) :=
  match path with
  | none => .ok none
  | some p =>
    match fs.readText p with
    | .ok content => .ok (some ⟨p, content⟩)
    | .error e => .error (.unreadableList p e)

def addLists (c : Config) (fs : FileSystem) (options : FilterOptions)
    (excluded included : Option Path) : Except ConfigError FilterOptions := do
  let excluded ← (loadSource fs (excluded.or c.settings.excluded)).mapError .list
  let included ← (loadSource fs (included.or c.settings.included)).mapError .list
  pure
    { options with
      excluded := excluded.or options.excluded
      included := included.or options.included }

end Config

end ListenQuery

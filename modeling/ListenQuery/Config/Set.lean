import ListenQuery.Changed
import ListenQuery.Config.Basic
import ListenQuery.Config.Error

/-!
# Setting configuration values

A key is a section and a name with the first dot between them, so that the name of a preset may
have dots of its own. An empty value takes a preset or a list source away. A preset is stored only
if its text is a filter.
-/

namespace ListenQuery

inductive ConfigKey
  | excluded
  | included
  | log
  | preset (name : String)
  deriving DecidableEq

def ConfigKey.read (key : String) : Option ConfigKey :=
  let cs := key.toList
  match String.ofList (cs.takeWhile (· ≠ '.')), cs.dropWhile (· ≠ '.') with
  | "settings", '.' :: name =>
    if name = "exclude".toList then some .excluded
    else if name = "include".toList then some .included
    else if name = "log".toList then some .log
    else none
  | "presets", '.' :: name => if name.isEmpty then none else some (.preset (String.ofList name))
  | _, _ => none

def pathSetting (value : String) : Option Path := if value.isEmpty then none else some value

namespace Config

def setPreset (c : Config) (name value : String) : Changed Config ConfigError :=
  if value.isEmpty then ⟨{ c with presets := c.presets.erase name }, .ok ()⟩
  else match readFilter value with
    | .error e => ⟨c, .error (.invalidPreset name e)⟩
    | .ok _ => ⟨{ c with presets := c.presets.insert name value }, .ok ()⟩

def setKey (c : Config) (value : String) : ConfigKey → Changed Config ConfigError
  | .excluded => ⟨{ c with settings.excluded := pathSetting value }, .ok ()⟩
  | .included => ⟨{ c with settings.included := pathSetting value }, .ok ()⟩
  | .log => ⟨{ c with settings.log := value }, .ok ()⟩
  | .preset name => c.setPreset name value

def set (c : Config) (key value : String) : Changed Config ConfigError :=
  match ConfigKey.read key with
  | some k => c.setKey value k
  | none => ⟨c, .error (.unknownKey key)⟩

end Config

end ListenQuery

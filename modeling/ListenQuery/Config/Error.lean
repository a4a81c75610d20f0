import ListenQuery.Expression.Error
import ListenQuery.Files.Path
import ListenQuery.Json.Fault

/-!
# Errors of configurations
-/

namespace ListenQuery

inductive ConfigError
  | noHome
  | unreadable (path : Path) (cause : FileError)
  | malformed (path : Path) (fault : Fault)
  | missing (path : Path)
  | unreadableToVerify (path : Path) (cause : FileError)
  | invalidJson (fault : Fault)
  | unwritable (path : Path) (cause : FileError)
  | noDirectory (cause : FileError)
  | unknownKey (key : String)
  | invalidPreset (name : String) (cause : ExpressionError)
  | unknownPreset (name : String)
  | list (cause : ExpressionError)
  deriving DecidableEq

namespace ConfigError

def message : ConfigError → String
  | noHome => "Could not find home directory"
  | unreadable path cause => "Failed to read config file: " ++ path ++ ": " ++ cause.message
  | malformed path fault => "Failed to parse config file: " ++ path ++ ": " ++ fault.message
  | missing path => "config file not found: " ++ path
  | unreadableToVerify path cause =>
    "failed to read config file: " ++ path ++ ": " ++ cause.message
  | invalidJson fault => "invalid JSON: " ++ fault.message
  | unwritable path cause => "Failed to write config file: " ++ path ++ ": " ++ cause.message
  | noDirectory cause => cause.message
  | unknownKey key =>
    "Unknown config key: " ++ key ++
      ". Valid keys: settings.exclude, settings.include, settings.log, presets.<name>"
  | invalidPreset name cause =>
    "Invalid filter for preset '" ++ name ++ "': " ++ cause.fullMessage
  | unknownPreset name => "Unknown preset: " ++ name
  | list cause => cause.fullMessage

def expression? : ConfigError → Option ExpressionError
  | invalidPreset _ cause => some cause
  | list cause => some cause
  | _ => none

end ConfigError

end ListenQuery

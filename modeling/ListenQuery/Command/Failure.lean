import ListenQuery.Config.Error
import ListenQuery.Listen.Stream

/-!
# Failures of a command

The exit code of a failure tells an expression that cannot be built or applied, or a configuration
with problems, from everything else. A text that cannot be printed is no error that a command
returns: it ends the process with an exit code of its own.
-/

namespace ListenQuery

inductive Failure
  | config (cause : ConfigError)
  | expression (cause : ExpressionError)
  | line (cause : LineError)
  | unopenable (path : Path) (cause : FileError)
  | uncreatable (path : Path) (cause : FileError)
  | unserialized (cause : FileError)
  | unwritten (cause : FileError)
  | unprinted (cause : FileError)
  | invalidConfig (problems : Nat)
  deriving DecidableEq

namespace Failure

def message : Failure → String
  | config cause => cause.message
  | expression cause => cause.fullMessage
  | line cause => cause.message
  | unopenable path cause => "Failed to open " ++ path ++ ": " ++ cause.message
  | uncreatable path cause => "Failed to create " ++ path ++ ": " ++ cause.message
  | unserialized cause => "failed to serialize listen: " ++ cause.message
  | unwritten cause => cause.message
  | unprinted cause => "failed printing to stdout: " ++ cause.message
  | invalidConfig problems =>
    "configuration has " ++ String.ofList (Number.natText problems) ++ " error(s)"

def expression? : Failure → Option ExpressionError
  | config cause => cause.expression?
  | expression cause => some cause
  | _ => none

def exitCode (f : Failure) : Nat :=
  if f.expression?.isSome then 3
  else match f with
    | invalidConfig _ => 4
    | unprinted _ => 101
    | _ => 1

/-- What is reported of a failure: an error that a command returns is marked as one. -/
def report : Failure → String
  | unprinted cause => (unprinted cause).message
  | f => "error: " ++ f.message

end Failure

end ListenQuery

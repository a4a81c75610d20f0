import ListenQuery.Fields

/-!
# Command lines

A command has options, positional arguments and subcommands. Its arguments are read from the left:
a subcommand takes over the rest, a long option may have its value after an equals sign, short
options may be joined, and after two hyphens everything is positional. The value of an option or
of a positional argument is looked at when the next one begins, or at the end.
-/

namespace ListenQuery

inductive UsageError
  | unknownArgument
  | invalidSubcommand
  | invalidValue
  | argumentConflict
  | missingRequiredArgument
  | missingSubcommand
  | tooManyValues
  | helpOnMissing
  | help
  | version
  deriving DecidableEq, Repr

/-- Asking for help or the version is no failure. -/
def UsageError.exitCode : UsageError → Nat
  | .help => 0
  | .version => 0
  | _ => 2

inductive Action
  | once
  | append
  | flag
  | count
  | help
  | version
  deriving DecidableEq, Repr

def Action.takesValue : Action → Bool
  | .once => true
  | .append => true
  | _ => false

inductive ValueKind
  | text
  | path
  | oneOf (choices : List String)
  deriving DecidableEq, Repr

def ValueKind.allows : ValueKind → String → Bool
  | .text, _ => true
  | .path, value => ! value.isEmpty
  | .oneOf choices, value => choices.contains value

structure Parameter where
  name : String
  short : Option Char
  action : Action
  kind : ValueKind
  deriving DecidableEq, Repr

structure Positional where
  name : String
  required : Bool
  kind : ValueKind
  deriving DecidableEq, Repr

inductive CommandSpec
  | mk (parameters : List Parameter) (positionals : List Positional)
    (subcommands : List (String × CommandSpec))

namespace CommandSpec

def parameters : CommandSpec → List Parameter
  | mk ps _ _ => ps

def positionals : CommandSpec → List Positional
  | mk _ ps _ => ps

def subcommands : CommandSpec → List (String × CommandSpec)
  | mk _ _ cs => cs

def long? (spec : CommandSpec) (name : String) : Option Parameter :=
  spec.parameters.find? (·.name = name)

def short? (spec : CommandSpec) (c : Char) : Option Parameter :=
  spec.parameters.find? (·.short = some c)

def subcommand? (spec : CommandSpec) (name : String) : Option CommandSpec :=
  spec.subcommands.lookup name

end CommandSpec

/-- A parameter or a positional argument whose value is still to be looked at. -/
inductive Pending
  | parameter (p : Parameter) (value : Option String)
  | positional (p : Positional) (value : String)

structure Level where
  given : List (String × List String)
  pending : Option Pending
  positionalsLeft : List Positional
  trailing : Bool

inductive Matches
  | mk (given : List (String × List String)) (subcommand : Option (String × Matches))

namespace Level

def start (spec : CommandSpec) : Level := ⟨[], none, spec.positionals, false⟩

def valuesOf (level : Level) (name : String) : List String :=
  (level.given.lookup name).getD []

def isGiven (level : Level) (name : String) : Bool := (level.given.lookup name).isSome

def record (level : Level) (name : String) (values : List String) : Level :=
  { level with given := (name, values) :: level.given.filter (·.1 ≠ name) }

/-- An option that may be given once, a flag among them. -/
def recordOnce (level : Level) (name : String) (kind : ValueKind) (value : String) :
    Except UsageError Level :=
  if level.isGiven name then .error .argumentConflict
  else if kind.allows value then .ok (level.record name [value])
  else .error .invalidValue

def recordMore (level : Level) (name : String) (kind : ValueKind) (value : String) :
    Except UsageError Level :=
  if kind.allows value then .ok (level.record name (level.valuesOf name ++ [value]))
  else .error .invalidValue

def resolve (level : Level) : Except UsageError Level :=
  let done := { level with pending := none }
  match level.pending with
  | none => .ok done
  | some (.parameter _ none) => .error .invalidValue
  | some (.parameter p (some value)) =>
    if p.action = .append then done.recordMore p.name p.kind value
    else done.recordOnce p.name p.kind value
  | some (.positional p value) => done.recordOnce p.name p.kind value

def react (level : Level) (p : Parameter) : Except UsageError Level := do
  let level ← level.resolve
  match p.action with
  | .help => .error .help
  | .version => .error .version
  | .count => level.recordMore p.name p.kind "1"
  | _ => level.recordOnce p.name p.kind "true"

/-- An option that takes a value, which is attached or still to come. -/
def await (level : Level) (p : Parameter) (attached : Option String) : Except UsageError Level := do
  let level ← level.resolve
  let level := { level with pending := some (.parameter p attached) }
  if attached.isSome then level.resolve else pure level

def isAwaiting (level : Level) : Bool :=
  match level.pending with
  | some (.parameter _ none) => true
  | _ => false

def supply (level : Level) (value : String) : Level :=
  match level.pending with
  | some (.parameter p _) => { level with pending := some (.parameter p (some value)) }
  | _ => level

def readLong (spec : CommandSpec) (level : Level) (body : List Char) : Except UsageError Level :=
  let name := String.ofList (body.takeWhile (· ≠ '='))
  let attached := match body.dropWhile (· ≠ '=') with
    | [] => none
    | _ :: value => some (String.ofList value)
  match spec.long? name with
  | none => .error .unknownArgument
  | some p =>
    if p.action.takesValue then level.await p attached
    else if attached.isSome then .error .tooManyValues
    else level.react p

def readShort (spec : CommandSpec) (level : Level) : List Char → Except UsageError Level
  | [] => .ok level
  | c :: rest =>
    match spec.short? c with
    | none => .error .unknownArgument
    | some p =>
      if p.action.takesValue then
        level.await p <| match rest with
          | [] => none
          | '=' :: value => some (String.ofList value)
          | value => some (String.ofList value)
      else do
        let level ← level.react p
        readShort spec level rest

/-- An argument that nothing expects. After two hyphens the name of a subcommand, `help` among
them, is no subcommand. -/
def unexpected (spec : CommandSpec) (level : Level) (arg : String) : UsageError :=
  if spec.subcommands.isEmpty then .unknownArgument
  else if level.trailing && (arg = "help" || (spec.subcommand? arg).isSome) then .unknownArgument
  else .invalidSubcommand

def readPositional (spec : CommandSpec) (level : Level) (arg : String) :
    Except UsageError Level :=
  match level.positionalsLeft with
  | [] => .error (level.unexpected spec arg)
  | p :: left => do
    let level ← level.resolve
    pure { level with pending := some (.positional p arg), positionalsLeft := left }

def readArgument (spec : CommandSpec) (level : Level) (arg : String) : Except UsageError Level :=
  if level.trailing then level.readPositional spec arg
  else match arg.toList with
    | ['-', '-'] => .ok { level with trailing := true }
    | '-' :: '-' :: body => level.readLong spec body
    | '-' :: c :: body => level.readShort spec (c :: body)
    | _ => if level.isAwaiting then .ok (level.supply arg) else level.readPositional spec arg

/-- The checks at the end of a command that has no subcommand. -/
def complete (spec : CommandSpec) (level : Level) : Except UsageError Matches :=
  if ! spec.subcommands.isEmpty then
    .error (if level.given.isEmpty then .helpOnMissing else .missingSubcommand)
  else if spec.positionals.any fun p => p.required && ! level.isGiven p.name then
    .error .missingRequiredArgument
  else .ok (.mk level.given none)

end Level

/-- What the subcommand `help` shows: the help of the command that its arguments lead to. -/
def helpFor : CommandSpec → List String → UsageError
  | _, [] => .help
  | spec, name :: rest =>
    match spec.subcommand? name with
    | some sub => helpFor sub rest
    | none =>
      if name = "help" && ! spec.subcommands.isEmpty then
        if rest.isEmpty then .help else .invalidSubcommand
      else .invalidSubcommand

namespace Level

def readAll : List String → CommandSpec → Level → Except UsageError Matches
  | [], spec, level => do
    let level ← level.resolve
    level.complete spec
  | arg :: rest, spec, level =>
    let mayBeSubcommand := ! level.trailing && ! level.isAwaiting
    match if mayBeSubcommand then spec.subcommand? arg else none with
    | some sub => do
      let found ← readAll rest sub (start sub)
      let level ← level.resolve
      pure (.mk level.given (some (arg, found)))
    | none =>
      if mayBeSubcommand && arg = "help" && ! spec.subcommands.isEmpty then
        .error (helpFor spec rest)
      else
        match level.readArgument spec arg with
        | .error e => .error e
        | .ok level => readAll rest spec level

end Level

def CommandSpec.read (spec : CommandSpec) (args : List String) : Except UsageError Matches :=
  Level.readAll args spec (Level.start spec)

namespace Matches

def given : Matches → List (String × List String)
  | mk given _ => given

def subcommand? : Matches → Option (String × Matches)
  | mk _ sub => sub

def values (m : Matches) (name : String) : List String := (m.given.lookup name).getD []

def value? (m : Matches) (name : String) : Option String := (m.values name).head?

def isGiven (m : Matches) (name : String) : Bool := (m.given.lookup name).isSome

/-- The values of an option that all commands have, from the innermost that it was given to. -/
def innermost (name : String) : Matches → List String
  | mk given none => (given.lookup name).getD []
  | mk given (some (_, sub)) =>
    match innermost name sub with
    | [] => (given.lookup name).getD []
    | values => values

end Matches

end ListenQuery

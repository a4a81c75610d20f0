import ListenQuery.Command.Usage
import ListenQuery.Files.Path

/-!
# The commands

`filter` keeps matching listens and edits them, `explain` shows how a filter and edits are
understood, `config` shows, sets and verifies the configuration, and `completions` is for shells.
The path of the configuration and the verbosity may be given with any of them.
-/

namespace ListenQuery

structure Selection where
  filter : Option String
  presets : List String
  after : Option String
  before : Option String
  excluded : Option Path
  included : Option Path
  edits : List String
  deriving DecidableEq, Repr

inductive ConfigCommand
  | showAll
  | path
  | set (key value : String)
  | verify
  deriving DecidableEq, Repr

inductive Command
  | filter (input : Option Path) (selection : Selection) (output : Option Path) (count : Bool)
  | explain (selection : Selection) (json : Bool)
  | config (command : ConfigCommand)
  | completions (shell : String)
  deriving DecidableEq, Repr

structure Invocation where
  configPath : Option Path
  verbosity : Nat
  command : Command
  deriving DecidableEq, Repr

namespace Invocation

def globals : List Parameter :=
  [⟨"config", none, .once, .path⟩, ⟨"verbose", some 'v', .count, .text⟩,
    ⟨"help", some 'h', .help, .text⟩]

def selectionParameters : List Parameter :=
  [⟨"filter", some 'f', .once, .text⟩, ⟨"preset", some 'p', .append, .text⟩,
    ⟨"after", none, .once, .text⟩, ⟨"before", none, .once, .text⟩,
    ⟨"exclude", none, .once, .path⟩, ⟨"include", none, .once, .path⟩,
    ⟨"edit", some 'e', .append, .text⟩]

def filterSpec : CommandSpec :=
  .mk (selectionParameters ++ ⟨"output", some 'o', .once, .path⟩ ::
      ⟨"count", none, .flag, .text⟩ :: globals)
    [⟨"input", false, .path⟩] []

def explainSpec : CommandSpec :=
  .mk (selectionParameters ++ ⟨"json", some 'j', .flag, .text⟩ :: globals) [] []

def configSpec : CommandSpec :=
  .mk globals []
    [("show", .mk globals [] []), ("path", .mk globals [] []),
      ("set", .mk globals [⟨"key", true, .text⟩, ⟨"value", true, .text⟩] []),
      ("verify", .mk globals [] [])]

def shells : List String := ["bash", "elvish", "fish", "powershell", "zsh"]

def spec : CommandSpec :=
  .mk (⟨"version", some 'V', .version, .text⟩ :: globals) []
    [("filter", filterSpec), ("explain", explainSpec), ("config", configSpec),
      ("completions", .mk globals [⟨"shell", true, .oneOf shells⟩] [])]

def readSelection (m : Matches) : Selection :=
  ⟨m.value? "filter", m.values "preset", m.value? "after", m.value? "before", m.value? "exclude",
    m.value? "include", m.values "edit"⟩

def readConfigCommand (name : String) (m : Matches) : Option ConfigCommand :=
  match name with
  | "show" => some .showAll
  | "path" => some .path
  | "verify" => some .verify
  | "set" => do
    let key ← m.value? "key"
    let value ← m.value? "value"
    some (.set key value)
  | _ => none

def readCommand (name : String) (m : Matches) : Option Command :=
  match name with
  | "filter" =>
    some (.filter (m.value? "input") (readSelection m) (m.value? "output") (m.isGiven "count"))
  | "explain" => some (.explain (readSelection m) (m.isGiven "json"))
  | "config" => m.subcommand?.bind fun (name, m) => (readConfigCommand name m).map .config
  | "completions" => (m.value? "shell").map .completions
  | _ => none

def read (args : List String) : Except UsageError Invocation := do
  let m ← spec.read args
  match m.subcommand?.bind fun (name, m) => readCommand name m with
  | some c => .ok ⟨(m.innermost "config").head?, (m.innermost "verbose").length, c⟩
  | none => .error .missingSubcommand

end Invocation

end ListenQuery

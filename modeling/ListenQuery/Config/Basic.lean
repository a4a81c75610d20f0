import ListenQuery.Expression.Clause
import ListenQuery.Files.Path
import ListenQuery.Json.Typed
import ListenQuery.Json.Writer

/-!
# Configuration

A configuration holds named filter texts, the presets, and settings: the list sources in force
when none is named, and what is logged. It is kept as JSON. Fields may be left out, unknown ones
are skipped, and the fields of an object may also be given in order as an array.
-/

namespace ListenQuery

open Cursor Number

structure Settings where
  excluded : Option Path
  included : Option Path
  log : String
  deriving DecidableEq, Repr

def Settings.default : Settings := ⟨none, none, "warn"⟩

structure Config where
  presets : SortedFields String
  settings : Settings
  deriving DecidableEq, Repr

def Config.default : Config := ⟨.empty, .default⟩

def pathMember (name : String) (path : Option Path) : Fields Json :=
  match path with
  | some p => [(name, .string p)]
  | none => []

def Settings.toJson (s : Settings) : Json :=
  .object <|
    pathMember "exclude" s.excluded ++ pathMember "include" s.included ++ [("log", .string s.log)]

def Config.toJson (c : Config) : Json :=
  .object
    [("presets", .object (c.presets.toFields.map fun (name, text) => (name, .string text))),
      ("settings", c.settings.toJson)]

def Config.text (c : Config) : String := String.ofList (c.toJson.indented 0)

namespace Cursor

/-- A value from an array of fields in order, or the default where the array has ended. -/
def nextField {α : Type} (isFirst : Bool) (default : α) (read : Reader α) : Reader α :=
  fun cur => do
  match ← cur.nextItem isFirst with
  | none => pure (default, cur)
  | some cur => read cur

def endFields (cur : Cursor) : Except Fault Cursor :=
  let cur := cur.skipSpace
  match cur.rest with
  | [] => cur.faultAhead .endInList
  | ']' :: _ => .ok cur.next
  | ',' :: _ =>
    let cur := cur.next.skipSpace
    match cur.rest with
    | ']' :: _ => cur.faultAhead .trailingComma
    | _ => cur.faultAhead .trailingCharacters
  | _ => cur.faultAhead .trailingCharacters

/-- An object with braces, or its fields in order with brackets. -/
def bracedOrListed [RealReading] {α : Type} (expected : String) (depth : Nat)
    (body listed : Nat → Reader α) : Reader α := fun cur =>
  let cur := cur.skipSpace
  match cur.rest with
  | '[' :: _ =>
    match depth with
    | 0 => cur.faultAhead .tooDeep
    | depth + 1 => do
      let (x, cur) ← listed depth cur.next
      pure (x, ← cur.endFields)
  | _ => braced expected depth body cur

end Cursor

def pathReader [RealReading] : Reader (Option Path) := optional (text "path string")

structure PartialSettings where
  excluded : Option (Option Path)
  included : Option (Option Path)
  log : Option String

namespace PartialSettings

def empty : PartialSettings := ⟨none, none, none⟩

def member [RealReading] (s : PartialSettings) (name : String) :
    Reader PartialSettings := fun cur => do
  match name with
  | "exclude" =>
    let (x, cur) ← onlyOnce name s.excluded pathReader cur
    pure ({ s with excluded := some x }, cur)
  | "include" =>
    let (x, cur) ← onlyOnce name s.included pathReader cur
    pure ({ s with included := some x }, cur)
  | "log" =>
    let (x, cur) ← onlyOnce name s.log (Cursor.text "a string") cur
    pure ({ s with log := some x }, cur)
  | _ =>
    let cur ← cur.colon
    pure (s, ← cur.skip)

def complete (s : PartialSettings) : Settings :=
  ⟨s.excluded.join, s.included.join, s.log.getD Settings.default.log⟩

end PartialSettings

def Settings.reader [RealReading] (depth : Nat) : Reader Settings :=
  bracedOrListed "struct Settings" depth
    (fun _ cur => do
      let (s, cur) ← cur.members PartialSettings.member PartialSettings.empty
      pure (s.complete, cur))
    (fun _ cur => do
      let (excluded, cur) ← nextField true none pathReader cur
      let (included, cur) ← nextField false none pathReader cur
      let (log, cur) ← nextField false Settings.default.log (Cursor.text "a string") cur
      pure (⟨excluded, included, log⟩, cur))

structure PartialConfig where
  presets : Option (SortedFields String)
  settings : Option Settings

namespace PartialConfig

def empty : PartialConfig := ⟨none, none⟩

def member [RealReading] (depth : Nat) (c : PartialConfig) (name : String) :
    Reader PartialConfig := fun cur => do
  match name with
  | "presets" =>
    let (x, cur) ← onlyOnce name c.presets (fieldsOf depth fun _ => Cursor.text "a string") cur
    pure ({ c with presets := some x }, cur)
  | "settings" =>
    let (x, cur) ← onlyOnce name c.settings (Settings.reader depth) cur
    pure ({ c with settings := some x }, cur)
  | _ =>
    let cur ← cur.colon
    pure (c, ← cur.skip)

def complete (c : PartialConfig) : Config :=
  ⟨c.presets.getD .empty, c.settings.getD Settings.default⟩

end PartialConfig

def Config.reader [RealReading] (depth : Nat) : Reader Config :=
  bracedOrListed "struct Config" depth
    (fun depth cur => do
      let (c, cur) ← cur.members (PartialConfig.member depth) PartialConfig.empty
      pure (c.complete, cur))
    (fun depth cur => do
      let (presets, cur) ←
        nextField true .empty (fieldsOf depth fun _ => Cursor.text "a string") cur
      let (settings, cur) ← nextField false Settings.default (Settings.reader depth) cur
      pure (⟨presets, settings⟩, cur))

def Config.read [RealReading] (text : String) : Except Fault Config := do
  let (c, cur) ← Config.reader depthLimit (Cursor.start text)
  cur.finish c

end ListenQuery

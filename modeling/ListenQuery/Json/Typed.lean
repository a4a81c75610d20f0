import ListenQuery.Json.Reader

/-!
# Reading data of known types

A reader for a type takes a value of that type off a text, and faults with what it found where a
value of another type stands. A member that is given twice, or one that is missing, is a fault of
the whole object. Values that nobody asks for are skipped with their syntax checked.
-/

namespace ListenQuery

open Number

namespace Cursor

abbrev Reader (α : Type) := Cursor → Except Fault (α × Cursor)

/-- What kind of value comes next. Brackets are left unread. -/
def found [RealReading] (cur : Cursor) : Except Fault (Found × Cursor) :=
  match cur.rest with
  | 'n' :: _ => (cur.next.word ['u', 'l', 'l']).map (.null, ·)
  | 't' :: _ => (cur.next.word ['r', 'u', 'e']).map (.bool true, ·)
  | 'f' :: _ => (cur.next.word ['a', 'l', 's', 'e']).map (.bool false, ·)
  | '"' :: _ => cur.next.string.map fun (s, cur) => (.string s, cur)
  | '[' :: _ => .ok (.sequence, cur)
  | '{' :: _ => .ok (.map, cur)
  | '-' :: _ => cur.numeral.map fun (n, cur) => (.number n, cur)
  | c :: _ =>
    if isDigit c then cur.numeral.map fun (n, cur) => (.number n, cur)
    else cur.faultAhead .expectedValue
  | [] => cur.faultAhead .endInValue

def unexpected [RealReading] {α : Type} (expected : String) (cur : Cursor) : Except Fault α := do
  let (found, cur) ← cur.found
  cur.faultHere (.wrongType found expected)

def int64 [RealReading] : Reader Int64 := fun cur =>
  let cur := cur.skipSpace
  match cur.rest with
  | [] => cur.faultAhead .endInValue
  | c :: _ =>
    if c = '-' || isDigit c then do
      match ← cur.numeral with
      | (.integer n h, cur) =>
        if n < 2 ^ 63 then pure (Int64.ofInt n, cur)
        else cur.faultHere (.wrongValue (.number (.integer n h)) "i64")
      | (n, cur) => cur.faultHere (.wrongType (.number n) "i64")
    else cur.unexpected "i64"

def text [RealReading] (expected : String) : Reader String := fun cur =>
  let cur := cur.skipSpace
  match cur.rest with
  | [] => cur.faultAhead .endInValue
  | '"' :: _ => cur.next.string
  | _ => cur.unexpected expected

def optional {α : Type} (read : Reader α) : Reader (Option α) := fun cur =>
  let cur := cur.skipSpace
  match cur.rest with
  | 'n' :: _ => (cur.next.word ['u', 'l', 'l']).map (none, ·)
  | _ => (read cur).map fun (x, cur) => (some x, cur)

/-- The position of a fault of the object that `cur` stands in: past its closing brace where that
comes next. -/
def closingPosition (cur : Cursor) : Position :=
  let cur := cur.skipSpace
  match cur.rest with
  | '}' :: _ => cur.next.position
  | _ => cur.position

def onlyOnce {α : Type} (name : String) (given : Option α) (read : Reader α) : Reader α :=
  fun cur => do
    if given.isSome then .error ⟨.duplicateField name, cur.closingPosition⟩
    else
      let cur ← cur.colon
      read cur

def required {α : Type} (name : String) (given : Option α) (cur : Cursor) : Except Fault α :=
  match given with
  | some x => .ok x
  | none => cur.faultHere (.missingField name)

/-- An object with braces, which open one level more. -/
def braced [RealReading] {α : Type} (expected : String) (depth : Nat) (body : Nat → Reader α) :
    Reader α :=
  fun cur =>
    let cur := cur.skipSpace
    match cur.rest with
    | [] => cur.faultAhead .endInValue
    | '{' :: _ =>
      match depth with
      | 0 => cur.faultAhead .tooDeep
      | depth + 1 => body depth cur.next
    | _ => cur.unexpected expected

def fieldsOf [RealReading] {α : Type} (depth : Nat) (value : Nat → Reader α) :
    Reader (SortedFields α) :=
  braced "a map" depth fun depth cur => cur.members (objectMember (value depth)) .empty

inductive Bracket
  | list
  | object
  deriving DecidableEq

/-- A string of a skipped value. Escapes by number need only have four digits. A control character
is at fault before it is taken. -/
def skipStringWithin : Nat → Cursor → Except Fault Cursor
  | 0, cur => cur.faultHere .endInString
  | steps + 1, cur =>
    match cur.rest with
    | [] => cur.faultHere .endInString
    | c :: _ =>
      if c = '"' then .ok cur.next
      else if c = '\\' then
        let cur := cur.next
        match cur.rest with
        | [] => cur.faultHere .endInString
        | e :: _ =>
          if e = 'u' then do
            let (_, cur) ← cur.next.hexQuad
            skipStringWithin steps cur
          else if (simpleEscape e).isSome then skipStringWithin steps cur.next
          else cur.faultAhead .invalidEscape
      else if c.toNat < 32 then cur.faultHere .controlCharacter
      else skipStringWithin steps cur.next

def skipString (cur : Cursor) : Except Fault Cursor :=
  skipStringWithin (cur.rest.length + 1) cur

def skipExponent (cur : Cursor) : Except Fault Cursor :=
  let cur := match cur.rest with
    | '+' :: _ => cur.next
    | '-' :: _ => cur.next
    | _ => cur
  if cur.digits.1.isEmpty then cur.faultAhead .invalidNumber else .ok cur.digits.2

def skipNumberTail (cur : Cursor) : Except Fault Cursor :=
  match cur.rest with
  | c :: _ => if c = 'e' || c = 'E' then cur.next.skipExponent else .ok cur
  | [] => .ok cur

/-- A number of a skipped value. Its size is of no concern. -/
def skipNumber (cur : Cursor) : Except Fault Cursor :=
  let cur := match cur.rest with
    | '-' :: _ => cur.next
    | _ => cur
  let (whole, after) := cur.digits
  match whole with
  | [] => cur.faultAhead .invalidNumber
  | '0' :: _ :: _ => cur.next.faultAhead .invalidNumber
  | _ =>
    match after.rest with
    | '.' :: _ =>
      let (fraction, after) := after.next.digits
      if fraction.isEmpty then after.faultAhead .invalidNumber else after.skipNumberTail
    | _ => after.skipNumberTail

/-- The part of a skipped value before its first item: a whole scalar, or a bracket. -/
def skipOpening (cur : Cursor) : Except Fault (Option Bracket × Cursor) :=
  let cur := cur.skipSpace
  match cur.rest with
  | [] => cur.faultAhead .endInValue
  | c :: _ =>
    if c = 'n' then (cur.next.word ['u', 'l', 'l']).map (none, ·)
    else if c = 't' then (cur.next.word ['r', 'u', 'e']).map (none, ·)
    else if c = 'f' then (cur.next.word ['a', 'l', 's', 'e']).map (none, ·)
    else if c = '-' || isDigit c then cur.skipNumber.map (none, ·)
    else if c = '"' then cur.next.skipString.map (none, ·)
    else if c = '[' then .ok (some .list, cur.next)
    else if c = '{' then .ok (some .object, cur.next)
    else cur.faultAhead .expectedValue

/-- Closes the brackets that end here. The result has the brackets still open, none if the whole
value has been skipped. -/
def skipClosings : Bool → List Bracket → Cursor → Except Fault (List Bracket × Cursor)
  | _, [], cur => .ok ([], cur)
  | afterItem, bracket :: outer, cur =>
    let cur := cur.skipSpace
    let goOn : Except Fault (List Bracket × Cursor) :=
      if afterItem then
        cur.faultAhead (if bracket = .list then .expectedListEnd else .expectedObjectEnd)
      else .ok (bracket :: outer, cur)
    match cur.rest with
    | [] => cur.faultAhead (if bracket = .list then .endInList else .endInObject)
    | ',' :: _ => if afterItem then .ok (bracket :: outer, cur.next) else goOn
    | ']' :: _ => if bracket = .list then skipClosings true outer cur.next else goOn
    | '}' :: _ => if bracket = .object then skipClosings true outer cur.next else goOn
    | _ => goOn

def skipName (cur : Cursor) : Except Fault Cursor := do
  let cur := cur.skipSpace
  match cur.rest with
  | [] => cur.faultAhead .endInObject
  | '"' :: _ =>
    let cur ← cur.next.skipString
    cur.colon
  | _ => cur.faultAhead .keyNotString

/-- Skips items until no bracket of `opened` is left, in at most `steps` steps. -/
def skipWithin : Nat → List Bracket → Cursor → Except Fault Cursor
  | 0, _, cur => cur.faultHere .endInValue
  | steps + 1, opened, cur => do
    let (bracket, cur) ← cur.skipOpening
    let (opened, cur) ← match bracket with
      | some bracket => skipClosings false (bracket :: opened) cur
      | none => skipClosings true opened cur
    match opened with
    | [] => pure cur
    | .list :: _ => skipWithin steps opened cur
    | .object :: _ => do
      let cur ← cur.skipName
      skipWithin steps opened cur

def skip (cur : Cursor) : Except Fault Cursor := skipWithin (cur.rest.length + 1) [] cur

end Cursor

end ListenQuery

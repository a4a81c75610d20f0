import ListenQuery.Json.Fault
import ListenQuery.Number.Scaled

/-!
# Reading JSON

A cursor is the unread rest of a text with its position. Reading goes from left to right and stops
at the first fault. Arrays and objects may be nested 127 deep.
-/

namespace ListenQuery

open Number

structure Cursor where
  rest : List Char
  position : Position
  deriving DecidableEq

namespace Cursor

def start (text : String) : Cursor := ⟨text.toList, ⟨1, 0⟩⟩

def bump (c : Char) (p : Position) : Position :=
  if c = '\n' then ⟨p.line + 1, 0⟩ else ⟨p.line, p.column + c.utf8Size⟩

def next (cur : Cursor) : Cursor :=
  match cur.rest with
  | [] => cur
  | c :: rest => ⟨rest, bump c cur.position⟩

def drop : Nat → Cursor → Cursor
  | 0, cur => cur
  | n + 1, cur => drop n cur.next

/-- The position just past `bytes` bytes, which may end inside a character. -/
def positionPast : Nat → List Char → Position → Position
  | 0, _, p => p
  | _ + 1, [], p => p
  | bytes + 1, c :: rest, p =>
    if c.utf8Size ≤ bytes + 1 then positionPast (bytes + 1 - c.utf8Size) rest (bump c p)
    else ⟨p.line, p.column + (bytes + 1)⟩
termination_by n => n
decreasing_by have := c.utf8Size_pos; omega

/-- The position past the first byte of what comes next. -/
def peekPosition (cur : Cursor) : Position := positionPast 1 cur.rest cur.position

def faultHere {α : Type} (cur : Cursor) (cause : Cause) : Except Fault α :=
  .error ⟨cause, cur.position⟩

def faultAhead {α : Type} (cur : Cursor) (cause : Cause) : Except Fault α :=
  .error ⟨cause, cur.peekPosition⟩

def isSpace (c : Char) : Bool := c = ' ' || c = '\n' || c = '\t' || c = '\r'

def skipSpaceFrom : List Char → Position → Cursor
  | [], p => ⟨[], p⟩
  | c :: rest, p => if isSpace c then skipSpaceFrom rest (bump c p) else ⟨c :: rest, p⟩

def skipSpace (cur : Cursor) : Cursor := skipSpaceFrom cur.rest cur.position

def digitsFrom : List Char → Position → List Char × Cursor
  | [], p => ([], ⟨[], p⟩)
  | c :: rest, p =>
    if isDigit c then
      let (ds, cur) := digitsFrom rest (bump c p)
      (c :: ds, cur)
    else ([], ⟨c :: rest, p⟩)

def digits (cur : Cursor) : List Char × Cursor := digitsFrom cur.rest cur.position

def word : List Char → Cursor → Except Fault Cursor
  | [], cur => .ok cur
  | expected :: more, cur =>
    match cur.rest with
    | [] => cur.faultHere .endInValue
    | c :: _ => if c = expected then word more cur.next else cur.faultAhead .expectedWord

def hexValue (c : Char) : Option Nat :=
  if '0' ≤ c && c ≤ '9' then some (c.toNat - 48)
  else if 'a' ≤ c && c ≤ 'f' then some (c.toNat - 87)
  else if 'A' ≤ c && c ≤ 'F' then some (c.toNat - 55)
  else none

/-- Four hexadecimal digits. Whatever they are, four bytes are taken. -/
def hexQuad (cur : Cursor) : Except Fault (Nat × Cursor) :=
  if (cur.rest.take 4).foldr (fun c n => c.utf8Size + n) 0 < 4 then
    .error ⟨.endInString, (drop cur.rest.length cur).position⟩
  else
    match cur.rest.take 4 |>.mapM hexValue with
    | some ds => .ok (ds.foldl (fun n d => 16 * n + d) 0, cur.drop 4)
    | none => .error ⟨.invalidEscape, positionPast 4 cur.rest cur.position⟩

def expectEscape (expected : Char) (cur : Cursor) : Except Fault Cursor :=
  match cur.rest with
  | [] => cur.faultHere .endInString
  | c :: _ => if c = expected then .ok cur.next else cur.faultAhead .endOfHexEscape

/-- The character of an escape by number, of two escapes for one outside the basic plane. -/
def unicodeEscape (cur : Cursor) : Except Fault (Char × Cursor) := do
  let (high, cur) ← cur.hexQuad
  if 0xDC00 ≤ high ∧ high ≤ 0xDFFF then cur.faultHere .loneSurrogate
  else if high < 0xD800 ∨ 0xDBFF < high then pure (Char.ofNat high, cur)
  else
    let cur ← expectEscape '\\' cur
    let cur ← expectEscape 'u' cur
    let (low, cur) ← cur.hexQuad
    if low < 0xDC00 ∨ 0xDFFF < low then cur.faultHere .loneSurrogate
    else pure (Char.ofNat (0x10000 + (high - 0xD800) * 0x400 + (low - 0xDC00)), cur)

def simpleEscape (c : Char) : Option Char :=
  match c with
  | '"' => some '"'
  | '\\' => some '\\'
  | '/' => some '/'
  | 'b' => some (Char.ofNat 8)
  | 'f' => some (Char.ofNat 12)
  | 'n' => some '\n'
  | 'r' => some '\r'
  | 't' => some '\t'
  | _ => none

def escape (cur : Cursor) : Except Fault (Char × Cursor) :=
  match cur.rest with
  | [] => cur.faultHere .endInString
  | c :: _ =>
    if c = 'u' then cur.next.unicodeEscape
    else match simpleEscape c with
      | some e => .ok (e, cur.next)
      | none => cur.faultAhead .invalidEscape

/-- The characters of a string up to its closing quote, in at most `steps` steps. -/
def stringWithin : Nat → List Char → Cursor → Except Fault (String × Cursor)
  | 0, _, cur => cur.faultHere .endInString
  | steps + 1, read, cur =>
    match cur.rest with
    | [] => cur.faultHere .endInString
    | c :: _ =>
      if c = '"' then .ok (String.ofList read.reverse, cur.next)
      else if c = '\\' then
        match cur.next.escape with
        | .ok (e, cur) => stringWithin steps (e :: read) cur
        | .error fault => .error fault
      else if c.toNat < 32 then cur.faultAhead .controlCharacter
      else stringWithin steps (c :: read) cur.next

def string (cur : Cursor) : Except Fault (String × Cursor) :=
  stringWithin (cur.rest.length + 1) [] cur

def realNumeral (x : Double) (cur : Cursor) : Except Fault (Numeral × Cursor) :=
  if h : x.isFinite = true then .ok (.real x h, cur) else cur.faultHere .numberOutOfRange

/-- An integer that fits 64 bits stays one; minus zero does not. -/
def integerNumeral [RealReading] (negative : Bool) (whole : List Char) (cur : Cursor) :
    Except Fault (Numeral × Cursor) :=
  let n := spelled whole
  if h : negative = false ∧ n < 2 ^ 64 then .ok (.integer n (by omega), cur)
  else if h : negative = true ∧ 0 < n ∧ n ≤ 2 ^ 63 then .ok (.integer (-n) (by omega), cur)
  else realNumeral (RealReading.toDouble negative whole [] 0) cur

def exponentLimit : Nat := 2147483647

/-- The digits of an exponent. Reading stops where a positive one becomes too large. -/
def exponentWithin (positive zero : Bool) : List Char → Nat → Position →
    Except Fault (Nat × Cursor)
  | [], n, p => .ok (n, ⟨[], p⟩)
  | c :: rest, n, p =>
    if isDigit c then
      let n' := 10 * n + digitValue c
      if exponentLimit < n' && positive && ! zero then
        .error ⟨.numberOutOfRange, bump c p⟩
      else exponentWithin positive zero rest n' (bump c p)
    else .ok (n, ⟨c :: rest, p⟩)

def exponent (zero : Bool) (cur : Cursor) : Except Fault (Int × Cursor) := do
  let (positive, cur) := match cur.rest with
    | '+' :: _ => (true, cur.next)
    | '-' :: _ => (false, cur.next)
    | _ => (true, cur)
  match cur.rest with
  | [] => cur.faultHere .endInValue
  | c :: _ =>
    if isDigit c then
      let (n, cur) ← exponentWithin positive zero cur.rest 0 cur.position
      pure (if positive then (n : Int) else - (n : Int), cur)
    else cur.faultAhead .invalidNumber

/-- The exponent and the end of a number that has one, or the end alone. -/
def numeralEnd [RealReading] (negative : Bool) (whole fraction : List Char) (cur : Cursor)
    (plain : Cursor → Except Fault (Numeral × Cursor)) : Except Fault (Numeral × Cursor) :=
  match cur.rest with
  | [] => plain cur
  | c :: _ =>
    if c = 'e' || c = 'E' then do
      let (e, cur) ← cur.next.exponent (spelled (whole ++ fraction) = 0)
      realNumeral (RealReading.toDouble negative whole fraction e) cur
    else plain cur

def numeralTail [RealReading] (negative : Bool) (whole : List Char) (cur : Cursor) :
    Except Fault (Numeral × Cursor) :=
  match cur.rest with
  | '.' :: _ =>
    let (fraction, cur) := cur.next.digits
    if fraction.isEmpty then
      if cur.rest.isEmpty then cur.faultHere .endInValue else cur.faultAhead .invalidNumber
    else
      numeralEnd negative whole fraction cur
        (realNumeral (RealReading.toDouble negative whole fraction 0))
  | _ => numeralEnd negative whole [] cur (integerNumeral negative whole)

def numeral [RealReading] (cur : Cursor) : Except Fault (Numeral × Cursor) :=
  let (negative, cur) := match cur.rest with
    | '-' :: _ => (true, cur.next)
    | _ => (false, cur)
  match cur.rest with
  | [] => cur.faultHere .endInValue
  | c :: _ =>
    if c = '0' then
      let cur := cur.next
      match cur.rest with
      | d :: _ =>
        if isDigit d then cur.faultAhead .invalidNumber else numeralTail negative ['0'] cur
      | [] => numeralTail negative ['0'] cur
    else if isDigit c then
      let (whole, cur) := cur.digits
      numeralTail negative whole cur
    else cur.faultAhead .invalidNumber

/-- Whether an array goes on with an item: past the comma after the first one. -/
def nextItem (isFirst : Bool) (cur : Cursor) : Except Fault (Option Cursor) :=
  let cur := cur.skipSpace
  match cur.rest with
  | [] => cur.faultAhead .endInList
  | ']' :: _ => .ok none
  | c :: _ =>
    if isFirst then .ok (some cur)
    else if c = ',' then
      let cur := cur.next.skipSpace
      match cur.rest with
      | ']' :: _ => cur.faultAhead .trailingComma
      | [] => cur.faultAhead .endInValue
      | _ => .ok (some cur)
    else cur.faultAhead .expectedListEnd

/-- The items of an array up to its closing bracket, in at most `steps` steps. -/
def itemsWithin {α : Type} (item : Cursor → Except Fault (α × Cursor)) :
    Nat → Bool → Cursor → Except Fault (List α × Cursor)
  | 0, _, cur => cur.faultHere .endInList
  | steps + 1, isFirst, cur =>
    match cur.nextItem isFirst with
    | .error fault => .error fault
    | .ok none => .ok ([], cur.skipSpace.next)
    | .ok (some cur) =>
      match item cur with
      | .error fault => .error fault
      | .ok (x, cur) =>
        match itemsWithin item steps false cur with
        | .error fault => .error fault
        | .ok (xs, cur) => .ok (x :: xs, cur)

def items {α : Type} (item : Cursor → Except Fault (α × Cursor)) (cur : Cursor) :
    Except Fault (List α × Cursor) :=
  itemsWithin item (cur.rest.length + 1) true cur

/-- The name of the next member and the cursor after its closing quote. -/
def nextName (isFirst : Bool) (cur : Cursor) : Except Fault (Option (String × Cursor)) :=
  let cur := cur.skipSpace
  match cur.rest with
  | [] => cur.faultAhead .endInObject
  | '}' :: _ => .ok none
  | c :: _ =>
    if isFirst then name cur
    else if c = ',' then
      let cur := cur.next.skipSpace
      match cur.rest with
      | '}' :: _ => cur.faultAhead .trailingComma
      | _ => name cur
    else cur.faultAhead .expectedObjectEnd
where
  name (cur : Cursor) : Except Fault (Option (String × Cursor)) :=
    match cur.rest with
    | [] => cur.faultAhead .endInValue
    | '"' :: _ => cur.next.string.map some
    | _ => cur.faultAhead .keyNotString

def colon (cur : Cursor) : Except Fault Cursor :=
  let cur := cur.skipSpace
  match cur.rest with
  | [] => cur.faultAhead .endInObject
  | ':' :: _ => .ok cur.next
  | _ => cur.faultAhead .expectedColon

/-- The members of an object up to its closing brace, in at most `steps` steps. Each one is added
to the state by `member`, which is called with the name and the cursor after it. -/
def membersWithin {σ : Type} (member : σ → String → Cursor → Except Fault (σ × Cursor)) :
    Nat → Bool → σ → Cursor → Except Fault (σ × Cursor)
  | 0, _, _, cur => cur.faultHere .endInObject
  | steps + 1, isFirst, state, cur =>
    match cur.nextName isFirst with
    | .error fault => .error fault
    | .ok none => .ok (state, cur.skipSpace.next)
    | .ok (some (name, cur)) =>
      match member state name cur with
      | .error fault => .error fault
      | .ok (state, cur) => membersWithin member steps false state cur

def members {σ : Type} (member : σ → String → Cursor → Except Fault (σ × Cursor)) (state : σ)
    (cur : Cursor) : Except Fault (σ × Cursor) :=
  membersWithin member (cur.rest.length + 1) true state cur

/-- Adds one member to an object whose values are read by `value`. -/
def objectMember {α : Type} (value : Cursor → Except Fault (α × Cursor)) (fields : SortedFields α)
    (name : String) (cur : Cursor) : Except Fault (SortedFields α × Cursor) := do
  let cur ← cur.colon
  let (x, cur) ← value cur
  pure (fields.insert name x, cur)

/-- A value; `depth` is the number of brackets that may still be opened. -/
def value [RealReading] : Nat → Cursor → Except Fault (Json × Cursor)
  | depth, cur =>
    let cur := cur.skipSpace
    match cur.rest with
    | [] => cur.faultAhead .endInValue
    | c :: _ =>
      if c = 'n' then (cur.next.word ['u', 'l', 'l']).map (.null, ·)
      else if c = 't' then (cur.next.word ['r', 'u', 'e']).map (.bool true, ·)
      else if c = 'f' then (cur.next.word ['a', 'l', 's', 'e']).map (.bool false, ·)
      else if c = '-' || isDigit c then
        cur.numeral.map fun (n, cur) => (.number n, cur)
      else if c = '"' then cur.next.string.map fun (s, cur) => (.string s, cur)
      else if c = '[' then
        match depth with
        | 0 => cur.faultAhead .tooDeep
        | depth + 1 => (cur.next.items (value depth)).map fun (xs, cur) => (.array xs, cur)
      else if c = '{' then
        match depth with
        | 0 => cur.faultAhead .tooDeep
        | depth + 1 =>
          (cur.next.members (objectMember (value depth)) .empty).map fun (fields, cur) =>
            (.object fields.toFields, cur)
      else cur.faultAhead .expectedValue

def depthLimit : Nat := 127

def finish {α : Type} (x : α) (cur : Cursor) : Except Fault α :=
  let cur := cur.skipSpace
  if cur.rest.isEmpty then .ok x else cur.faultAhead .trailingCharacters

end Cursor

def Json.read [RealReading] (text : String) : Except Fault Json := do
  let (json, cur) ← (Cursor.start text).value Cursor.depthLimit
  cur.finish json

end ListenQuery

import ListenQuery.Pattern.Check

/-!
# Log settings

A log setting is a list of directives with commas between them. A directive is a level, or a
target, which may name a span in brackets with a field in braces, and then perhaps `=` and a level.
The field may have a value, which is a number or else a pattern. Blanks around a directive do not
count for its shape, but its field and its level are cut from the directive with its blanks, at the
places where they are without them.
-/

namespace ListenQuery

open Number Text

inductive LogSettingError
  | invalidDirective
  | invalidLevel
  | invalidField (cause : PatternError)
  deriving DecidableEq, Repr

def LogSettingError.message : LogSettingError → String
  | .invalidDirective => "invalid filter directive"
  | .invalidLevel =>
    "error parsing level filter: expected one of \"off\", \"error\", \"warn\", \"info\", " ++
      "\"debug\", \"trace\", or a number 0-5"
  | .invalidField cause => "invalid field filter: " ++ cause.message

namespace LogSetting

/-! ## Places -/

def byteCount (cs : List Char) : Nat := cs.foldr (fun c n => c.utf8Size + n) 0

def dropBytes : Nat → List Char → List Char
  | _, [] => []
  | n, c :: rest => if n = 0 then c :: rest else dropBytes (n - c.utf8Size) rest

def takeBytes : Nat → List Char → List Char
  | _, [] => []
  | n, c :: rest => if n = 0 then [] else c :: takeBytes (n - c.utf8Size) rest

/-! ## Levels -/

def levelNames : List (List Char) :=
  ["off", "error", "warn", "info", "debug", "trace"].map String.toList

def isLevelNumber (cs : List Char) : Bool :=
  let ds := match cs with
    | '+' :: rest => rest
    | _ => cs
  ! ds.isEmpty && ds.all isDigit && spelled ds ≤ 5

def isLevel (cs : List Char) : Bool :=
  isLevelNumber cs || levelNames.contains (cs.map lowerAscii)

/-- The level of a directive, which may be left out after the equals sign. -/
def checkLevel (cs : List Char) : Except LogSettingError Unit :=
  if cs.isEmpty || isLevel cs then .ok () else .error .invalidLevel

/-! ## Fields -/

def numberNames : List (List Char) := ["inf", "infinity", "nan"].map String.toList

def isNumber (cs : List Char) : Bool :=
  (readDecimal cs).isSome || numberNames.contains ((readSign cs).2.map lowerAscii)

/-- A field: its name, and perhaps a value between the first two equals signs. -/
def checkField (text : List Char) : Except LogSettingError Unit :=
  match Unicode.cutWhere (· = '=') text with
  | _ :: value :: _ =>
    if isNumber value then .ok () else (Pattern.check value).mapError .invalidField
  | _ => .ok ()

/-! ## Directives -/

/-- What may follow a span in a directive, from a place on. -/
def checkAfterSpan (directive : List Char) (place : Nat) :
    List Char → Except LogSettingError Unit
  | [] => .ok ()
  | '=' :: _ => checkLevel (dropBytes (place + 1) directive)
  | _ => .error .invalidDirective

/-- A span after its opening bracket, which ends at a place of the directive. -/
def checkSpan (directive : List Char) (place : Nat) (cs : List Char) :
    Except LogSettingError Unit :=
  let isEnd (c : Char) : Bool := c = ']' || c = '{'
  let fieldPlace := place + byteCount (cs.takeWhile (! isEnd ·)) + 1
  match cs.dropWhile (! isEnd ·) with
  | ']' :: rest => checkAfterSpan directive fieldPlace rest
  | '{' :: rest =>
    let fieldSize := byteCount (rest.takeWhile (· ≠ '}'))
    match rest.dropWhile (· ≠ '}') with
    | '}' :: after =>
      if fieldSize = 0 then .error .invalidDirective
      else do
        checkField (takeBytes fieldSize (dropBytes fieldPlace directive))
        match after with
        | ']' :: after => checkAfterSpan directive (fieldPlace + fieldSize + 2) after
        | _ => .error .invalidDirective
    | _ => .error .invalidDirective
  | _ => .error .invalidDirective

def isTargetStart (c : Char) : Bool := c = '-' || c = ':' || c = '_' || isAlphanumeric c

def checkDirective (directive : List Char) : Except LogSettingError Unit :=
  match trim directive with
  | [] => .error .invalidDirective
  | '[' :: rest => checkSpan directive 1 rest
  | c :: rest =>
    if ! isTargetStart c then .error .invalidDirective
    else
      let isEnd (c : Char) : Bool := c = '=' || c = '['
      let place := byteCount (c :: rest.takeWhile (! isEnd ·)) + 1
      match rest.dropWhile (! isEnd ·) with
      | [] => .ok ()
      | '=' :: _ => checkLevel (dropBytes place directive)
      | _ :: after => checkSpan directive place after

/-- Checks every directive that is not empty, and finds the first that is not valid. -/
def check (setting : String) : Except LogSettingError Unit :=
  ((Unicode.cutWhere (· = ',') setting.toList).filter (! ·.isEmpty)).forM checkDirective

end LogSetting

end ListenQuery

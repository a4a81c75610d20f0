import ListenQuery.Json.Basic
import ListenQuery.Number.Text

/-!
# Written JSON

The compact form has no blanks. The indented form puts every item and member on a line of its own,
two spaces deeper than the brackets around it.
-/

namespace ListenQuery

open Number

def hexDigitText (n : Nat) : Char := if n < 10 then Char.ofNat (48 + n) else Char.ofNat (87 + n)

/-- Quotes, backslashes and control characters are escaped, and nothing else is. -/
def escapeChar (c : Char) : List Char :=
  if c = '"' then ['\\', '"']
  else if c = '\\' then ['\\', '\\']
  else if c = '\n' then ['\\', 'n']
  else if c = '\r' then ['\\', 'r']
  else if c = '\t' then ['\\', 't']
  else if c.toNat = 8 then ['\\', 'b']
  else if c.toNat = 12 then ['\\', 'f']
  else if c.toNat < 32 then
    ['\\', 'u', '0', '0', hexDigitText (c.toNat / 16), hexDigitText (c.toNat % 16)]
  else [c]

def quoted (s : String) : List Char := '"' :: s.toList.flatMap escapeChar ++ ['"']

def Numeral.text : Numeral → List Char
  | .integer n _ => intText n
  | .real x _ => x.dataText

namespace Json

mutual

def compact : Json → List Char
  | null => "null".toList
  | bool b => if b then "true".toList else "false".toList
  | number n => n.text
  | string s => quoted s
  | array items => '[' :: compactItems items
  | object members => '{' :: compactMembers members

def compactItems : List Json → List Char
  | [] => [']']
  | item :: rest => compact item ++ compactRest rest

def compactRest : List Json → List Char
  | [] => [']']
  | item :: rest => ',' :: compact item ++ compactRest rest

def compactMembers : List (String × Json) → List Char
  | [] => ['}']
  | (name, value) :: rest => quoted name ++ ':' :: compact value ++ compactMembersRest rest

def compactMembersRest : List (String × Json) → List Char
  | [] => ['}']
  | (name, value) :: rest =>
    ',' :: quoted name ++ ':' :: compact value ++ compactMembersRest rest

end

def newline (depth : Nat) : List Char := '\n' :: List.replicate (2 * depth) ' '

mutual

/-- The indented form of a value whose first line stands at `depth`. -/
def indented (depth : Nat) : Json → List Char
  | null => "null".toList
  | bool b => if b then "true".toList else "false".toList
  | number n => n.text
  | string s => quoted s
  | array [] => "[]".toList
  | array (item :: rest) =>
    '[' :: newline (depth + 1) ++ indented (depth + 1) item ++ indentedRest depth rest
  | object [] => ['{', '}']
  | object ((name, value) :: rest) =>
    '{' :: newline (depth + 1) ++ quoted name ++ ':' :: ' ' :: indented (depth + 1) value ++
      indentedMembers depth rest

def indentedRest (depth : Nat) : List Json → List Char
  | [] => newline depth ++ [']']
  | item :: rest =>
    ',' :: newline (depth + 1) ++ indented (depth + 1) item ++ indentedRest depth rest

def indentedMembers (depth : Nat) : List (String × Json) → List Char
  | [] => newline depth ++ ['}']
  | (name, value) :: rest =>
    ',' :: newline (depth + 1) ++ quoted name ++ ':' :: ' ' :: indented (depth + 1) value ++
      indentedMembers depth rest

end

end Json

end ListenQuery

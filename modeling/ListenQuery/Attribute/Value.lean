import ListenQuery.Json.Basic
import ListenQuery.Number.Text

/-!
# Attribute values

What a condition sees of a JSON value: a scalar, the flat list of an array's leaves, or the mere
fact of an object. An attribute that a record does not have is absent.
-/

namespace ListenQuery

open Number

inductive Value
  | absent
  | null
  | bool (value : Bool)
  | number (value : Double)
  | text (value : String)
  | list (items : List Value)
  | object

inductive Kind
  | absent
  | null
  | boolean
  | number
  | string
  | list
  | object
  deriving DecidableEq, Repr

def Kind.name : Kind → String
  | .absent => "absent"
  | .null => "null"
  | .boolean => "boolean"
  | .number => "number"
  | .string => "string"
  | .list => "list"
  | .object => "object"

namespace Value

mutual

def ofJson : Json → Value
  | .null => null
  | .bool b => bool b
  | .number n => number n.toDouble
  | .string s => text s
  | .array items => list (ofLeaves items)
  | .object _ => object

def ofLeaves : List Json → List Value
  | [] => []
  | .array inner :: rest => ofLeaves inner ++ ofLeaves rest
  | item :: rest => ofJson item :: ofLeaves rest

end

def kind : Value → Kind
  | absent => .absent
  | null => .null
  | bool _ => .boolean
  | number _ => .number
  | text _ => .string
  | list _ => .list
  | object => .object

def isList : Value → Bool
  | list _ => true
  | _ => false

def isTruthy : Value → Bool
  | absent => false
  | null => false
  | bool b => b
  | number x => ! x.isZero
  | text s => ! s.isEmpty
  | list _ => true
  | object => true

mutual

def display : Value → List Char
  | absent => "<absent>".toList
  | null => "null".toList
  | bool b => if b then "true".toList else "false".toList
  | number x => x.plainText
  | text s => '"' :: s.toList ++ ['"']
  | list items => '[' :: displayItems items ++ [']']
  | object => '{' :: "...".toList ++ ['}']

def displayItems : List Value → List Char
  | [] => []
  | item :: rest => display item ++ displayRest rest

def displayRest : List Value → List Char
  | [] => []
  | item :: rest => ',' :: ' ' :: display item ++ displayRest rest

end

end Value

end ListenQuery

import Deinterlace.Decimal.Shortest

/-!
# JSON values and their text

`Json.Value.compact` writes a value without blanks and `Json.Value.pretty` over several lines. The
members of an object are written in the order in which they are given.
-/
namespace Deinterlace.Json

/-- A JSON value. -/
inductive Value
  | null
  | bool (b : Bool)
  | int (n : Int)
  | real (x : Float)
  | string (s : String)
  | array (items : List Value)
  | object (members : List (String × Value))

namespace Value

def nat (n : Nat) : Value := .int n

def optional {α : Type} (f : α → Value) : Option α → Value
  | some a => f a
  | none => .null

def list {α : Type} (f : α → Value) (as : List α) : Value := .array (as.map f)

end Value

def hex4 (n : Nat) : String :=
  let digits := Nat.toDigits 16 n
  String.ofList (List.replicate (4 - digits.length) '0' ++ digits)

/-- A character inside quotes: quotes, backslashes and control characters are escaped. -/
def escape (c : Char) : String :=
  if c = '"' then "\\\""
  else if c = '\\' then "\\\\"
  else if c = '\n' then "\\n"
  else if c = '\r' then "\\r"
  else if c = '\t' then "\\t"
  else if c.toNat = 0x08 then "\\b"
  else if c.toNat = 0x0c then "\\f"
  else if c.toNat < 0x20 then "\\u" ++ hex4 c.toNat
  else String.singleton c

def quote (s : String) : String := "\"" ++ String.join (s.toList.map escape) ++ "\""

/-- A number; there are no infinite ones and no others in JSON. -/
def realText (x : Float) : String := if x.isFinite then Shortest.render x else "null"

namespace Value

mutual

/-- The text of a value without blanks. -/
def compact : Value → String
  | .null => "null"
  | .bool b => if b then "true" else "false"
  | .int n => toString n
  | .real x => realText x
  | .string s => quote s
  | .array items => "[" ++ compactItems items ++ "]"
  | .object members => "\x7b" ++ compactMembers members ++ "\x7d"

def compactItems : List Value → String
  | [] => ""
  | [item] => compact item
  | item :: rest => compact item ++ "," ++ compactItems rest

def compactMembers : List (String × Value) → String
  | [] => ""
  | [(key, value)] => quote key ++ ":" ++ compact value
  | (key, value) :: rest => quote key ++ ":" ++ compact value ++ "," ++ compactMembers rest

end

/-- A new line at a depth, with two blanks for each level. -/
def newline (depth : Nat) : String := "\n" ++ String.ofList (List.replicate (2 * depth) ' ')

mutual

/-- The text of a value over several lines, at a depth. -/
def prettyAt (depth : Nat) : Value → String
  | .null => "null"
  | .bool b => if b then "true" else "false"
  | .int n => toString n
  | .real x => realText x
  | .string s => quote s
  | .array [] => "[]"
  | .array items => "[" ++ prettyItems (depth + 1) items ++ newline depth ++ "]"
  | .object [] => "\x7b\x7d"
  | .object members => "\x7b" ++ prettyMembers (depth + 1) members ++ newline depth ++ "\x7d"

/-- The texts of values, each on a line of its own. -/
def prettyItems (depth : Nat) : List Value → String
  | [] => ""
  | [item] => newline depth ++ prettyAt depth item
  | item :: rest => newline depth ++ prettyAt depth item ++ "," ++ prettyItems depth rest

/-- The texts of members, each on a line of its own. -/
def prettyMembers (depth : Nat) : List (String × Value) → String
  | [] => ""
  | [(key, value)] => newline depth ++ quote key ++ ": " ++ prettyAt depth value
  | (key, value) :: rest =>
    newline depth ++ quote key ++ ": " ++ prettyAt depth value ++ "," ++
      prettyMembers depth rest

end

def pretty (v : Value) : String := prettyAt 0 v

end Value

end Deinterlace.Json

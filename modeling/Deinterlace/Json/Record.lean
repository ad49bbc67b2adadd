import Deinterlace.Json.Reader

/-!
# Records and choices in JSON

A record is an object with known keys, or a list of its fields in order. A choice is one of several
names, alone or as the only key of an object.
-/
namespace Deinterlace.Json.Reader

variable {α S : Type}

/-- A field of a record that is being read into a value of type `S`. -/
structure Field (S : Type) where
  name : String
  aliases : List String := []
  isSet : S → Bool
  read : S → Reader S

def Field.answersTo (f : Field S) (key : String) : Bool := f.name == key || f.aliases.contains key

/-- Reads the field of a key. Keys without a field are skipped with their values; no field may come
twice. -/
def member (fields : List (Field S)) (key : String) (s : S) : Reader S := do
  match fields.find? (·.answersTo key) with
  | some field =>
    if field.isSet s then failContent ("duplicate field \x60" ++ field.name ++ "\x60")
    else
      colon
      field.read s
  | none =>
    colon
    skipValue
    return s

def anotherMember (first : Bool) : Reader Bool := do
  match ← skipBlanks with
  | none => failAhead (.unexpectedEnd .object)
  | some '\x7d' => return false
  | some c =>
    if first then
      if c = '"' then return true else failAhead .keyNotString
    else if c = ',' then
      advance
      match ← skipBlanks with
      | none => failAhead (.unexpectedEnd .value)
      | some '"' => return true
      | some '\x7d' => failAhead .trailingComma
      | some _ => failAhead .keyNotString
    else failAhead .expectedObjectEnd

def membersFrom (fields : List (Field S)) : (fuel : Nat) → (first : Bool) → S → Reader S
  | 0, _, s => return s
  | fuel + 1, first, s => do
    if ← anotherMember first then
      advance
      let key ← string
      membersFrom fields fuel false (← member fields key s)
    else return s

def objectEnd : Reader Unit := do
  match ← skipBlanks with
  | none => failAhead (.unexpectedEnd .object)
  | some '\x7d' => advance
  | some ',' => failAhead .trailingComma
  | some _ => failAhead .trailingCharacters

/-- The fields of a record given as a list, in order. `short` says what becomes of a list that ends
before a field. -/
def fieldsFrom (short : Nat → S → Reader S) : (index : Nat) → List (Field S) → S → Reader S
  | _, [], s => return s
  | index, field :: rest, s => do
    if ← anotherItem (index = 0) then fieldsFrom short (index + 1) rest (← field.read s)
    else short index s

/-- A record, given as an object or as a list. -/
def record (title : String) (fields : List (Field S)) (blank : S)
    (short : Nat → S → Reader S) (finish : S → Reader α) : Reader α :=
  value fun c => do
    if c = '\x7b' then
      advance
      closing (do finish (← membersFrom fields (← budget) true blank)) objectEnd
    else if c = '[' then
      advance
      closing (do finish (← fieldsFrom short 0 fields blank)) listEnd
    else wrongType c ("struct " ++ title)

/-- What becomes of a list that ends early if every field has to be there. -/
def needsAll (title : String) (count : Nat) (index : Nat) (_ : S) : Reader S :=
  failContent ("invalid length " ++ toString index ++ ", expected struct " ++ title ++ " with " ++
    toString count ++ " elements")

def required (name : String) : Option α → Reader α
  | some a => return a
  | none => failContent ("missing field \x60" ++ name ++ "\x60")

/-- One of the things a choice may be: a value under one or more names, or something that is read
after the name. -/
inductive Variant (α : Type)
  | unit (names : List String) (value : α)
  | carrying (name : String) (read : Reader α)

def Variant.names : Variant α → List String
  | .unit names _ => names
  | .carrying name _ => [name]

def listNames : List String → String
  | [] => "there are no variants"
  | [a] => "expected \x60" ++ a ++ "\x60"
  | [a, b] => "expected \x60" ++ a ++ "\x60 or \x60" ++ b ++ "\x60"
  | names => "expected one of " ++ ", ".intercalate (names.map fun n => "\x60" ++ n ++ "\x60")

def variantOf (variants : List (Variant α)) : Reader (Variant α) :=
  locate do
    advance
    let name ← string
    match variants.find? (·.names.contains name) with
    | some v => return v
    | none =>
      failContent ("unknown variant \x60" ++ name ++ "\x60, " ++
        listNames (variants.flatMap (·.names)))

/-- The key of an object that stands for a choice. In an empty object it is a value that is
missing. -/
def variantKey (variants : List (Variant α)) : Reader (Variant α) := do
  match ← skipBlanks with
  | none => failAhead (.unexpectedEnd .object)
  | some '"' => variantOf variants
  | some '\x7d' => failAhead .expectedValue
  | some _ => failAhead .keyNotString

/-- A choice, given as a name or as an object whose only key is one. -/
def choice (variants : List (Variant α)) : Reader α := do
  match ← skipBlanks with
  | none => failAhead (.unexpectedEnd .value)
  | some '"' =>
    match ← variantOf variants with
    | .unit _ a => return a
    | .carrying _ _ =>
      failContent "invalid type: unit variant, expected newtype variant"
  | some '\x7b' =>
    advance
    let v ← variantKey variants
    colon
    let a ← (match v with
      | .unit _ a => do null; return a
      | .carrying _ read => read)
    match ← skipBlanks with
    | some '\x7d' => advance; return a
    | some _ => failHere .expectedValue
    | none => failHere (.unexpectedEnd .object)
  | some _ => failAhead .expectedValue

def named (values : List α) (name : α → String) : Reader α :=
  choice (values.map fun a => .unit [name a] a)

end Deinterlace.Json.Reader

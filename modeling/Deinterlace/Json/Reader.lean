import Deinterlace.Decimal.Reading
import Deinterlace.Decimal.Scaling
import Deinterlace.Json.Value
import Deinterlace.Text.Printable

/-!
# Reading JSON

A `Reader` takes values off the front of a text, guided by what is expected there, and tells where
it was when something else came. Values that nobody asked for are skipped: they have to be
well-formed, but their numbers may have any size and their escapes may stand for anything.
-/
namespace Deinterlace.Json

/-- What is being read when a text ends too early. -/
inductive Enclosure
  | list
  | object
  | string
  | value
deriving DecidableEq, Repr

/-- Why a text cannot be read. -/
inductive Cause
  | unexpectedEnd (inside : Enclosure)
  | expectedColon
  | expectedListEnd
  | expectedObjectEnd
  | expectedWord
  | expectedValue
  | invalidEscape
  | invalidNumber
  | numberOutOfRange
  | controlCharacter
  | keyNotString
  | loneSurrogate
  | incompleteEscape
  | trailingComma
  | trailingCharacters
  /-- The text is well-formed and means the wrong thing. -/
  | content (message : String)
deriving DecidableEq, Repr

def Cause.describe : Cause → String
  | .unexpectedEnd .list => "EOF while parsing a list"
  | .unexpectedEnd .object => "EOF while parsing an object"
  | .unexpectedEnd .string => "EOF while parsing a string"
  | .unexpectedEnd .value => "EOF while parsing a value"
  | .expectedColon => "expected \x60:\x60"
  | .expectedListEnd => "expected \x60,\x60 or \x60]\x60"
  | .expectedObjectEnd => "expected \x60,\x60 or \x60\x7d\x60"
  | .expectedWord => "expected ident"
  | .expectedValue => "expected value"
  | .invalidEscape => "invalid escape"
  | .invalidNumber => "invalid number"
  | .numberOutOfRange => "number out of range"
  | .controlCharacter =>
      "control character (\\u0000-\\u001F) found while parsing a string"
  | .keyNotString => "key must be a string"
  | .loneSurrogate => "lone leading surrogate in hex escape"
  | .incompleteEscape => "unexpected end of hex escape"
  | .trailingComma => "trailing comma"
  | .trailingCharacters => "trailing characters"
  | .content message => message

/-- A place in a text: lines from one, bytes in the line from zero. -/
structure Place where
  line : Nat := 1
  column : Nat := 0
deriving DecidableEq, Repr

def Place.after (p : Place) (c : Char) : Place :=
  if c = '\n' then ⟨p.line + 1, 0⟩ else ⟨p.line, p.column + c.utf8Size⟩

/-- The place a number of bytes further on, which may lie within a character, or the end of the
text if that comes first. -/
def Place.ahead : (p : Place) → (bytes : Nat) → List Char → Place
  | p, 0, _ => p
  | p, _, [] => p
  | p, bytes + 1, c :: rest =>
    if c.utf8Size ≤ bytes + 1 then (p.after c).ahead (bytes + 1 - c.utf8Size) rest
    else ⟨p.line, p.column + (bytes + 1)⟩

/-- A text that cannot be read: why, and where if that is known already. -/
structure Fault where
  cause : Cause
  place : Option Place
deriving DecidableEq, Repr

def Fault.describe (f : Fault) : String :=
  match f.place with
  | some p =>
    f.cause.describe ++ " at line " ++ toString p.line ++ " column " ++ toString p.column
  | none => f.cause.describe

/-- What is left of a text, and its place. -/
structure Cursor where
  rest : List Char
  place : Place := {}

/-- Reads something off the front of a text. A fault leaves the cursor where it arose. -/
abbrev Reader := ExceptT Fault (StateM Cursor)

namespace Reader

variable {α β : Type}

def peek : Reader (Option Char) := do return (← get).rest.head?

def next : Reader (Option Char) := do
  match (← get).rest with
  | [] => return none
  | c :: rest =>
    modify fun cursor => ⟨rest, cursor.place.after c⟩
    return some c

def advance : Reader Unit := do
  let _ ← next
  return ()

def failHere (cause : Cause) : Reader α := do throw ⟨cause, some (← get).place⟩

def failAfter (bytes : Nat) (cause : Cause) : Reader α := do
  let cursor ← get
  throw ⟨cause, some (cursor.place.ahead bytes cursor.rest)⟩

/-- A fault behind the next byte, or at the end of the text. -/
def failAhead (cause : Cause) : Reader α := failAfter 1 cause

/-- A fault in what a well-formed text means; its place is settled by what reads around it. -/
def failContent (message : String) : Reader α := throw ⟨.content message, none⟩

/-- Settles the place of a fault that has none yet. -/
def locate (r : Reader α) : Reader α :=
  tryCatch r fun fault =>
    match fault.place with
    | some _ => throw fault
    | none => failHere fault.cause

/-- Reads something and then its end. A fault of the former counts, but only after the end has been
looked for. -/
def closing (body : Reader α) (close : Reader Unit) : Reader α := do
  match ← (observing body) with
  | .ok a => close; return a
  | .error fault =>
    let _ ← observing close
    throw fault
where
  observing {γ : Type} (r : Reader γ) : Reader (Except Fault γ) := fun cursor =>
    let (result, cursor) := r cursor
    (.ok result, cursor)

/-- The bound on the number of steps that reading the rest of a text can take. -/
def budget : Reader Nat := do return 2 * (← get).rest.length + 2

def isBlank (c : Char) : Bool := c = ' ' || c = '\t' || c = '\n' || c = '\r'

/-- The cursor behind the blanks at the front of a text. -/
def skipBlanksFrom : List Char → Place → Cursor
  | [], place => ⟨[], place⟩
  | c :: rest, place =>
    if isBlank c then skipBlanksFrom rest (place.after c) else ⟨c :: rest, place⟩

def skipBlanks : Reader (Option Char) := do
  modify fun cursor => skipBlanksFrom cursor.rest cursor.place
  peek

def word : List Char → Reader Unit
  | [] => return ()
  | c :: rest => do
    match ← peek with
    | none => failHere (.unexpectedEnd .value)
    | some found =>
      if found = c then
        advance
        word rest
      else failAhead .expectedWord

/-! ## Strings -/

def hexDigit? (c : Char) : Option Nat :=
  if c.isDigit then some (c.toNat - '0'.toNat)
  else if 'a' ≤ c ∧ c ≤ 'f' then some (c.toNat - 'a'.toNat + 10)
  else if 'A' ≤ c ∧ c ≤ 'F' then some (c.toNat - 'A'.toNat + 10)
  else none

/-- The number that some hexadecimal digits stand for. -/
def hexNumber? (cs : List Char) : Option Nat :=
  cs.foldlM (fun n c => (hexDigit? c).map (16 * n + ·)) 0

def byteCount (cs : List Char) : Nat := cs.foldl (fun n c => n + c.utf8Size) 0

/-- The four digits of an escape. They are taken as bytes, so a text of three characters may be long
enough to be wrong rather than too short. -/
def hexEscape : Reader Nat := do
  let cursor ← get
  if byteCount (cursor.rest.take 4) < 4 then
    failAfter 4 (.unexpectedEnd .string)
  else
    match hexNumber? (cursor.rest.take 4) with
    | some n =>
      advance; advance; advance; advance
      return n
    | none => failAfter 4 .invalidEscape

/-- Whether a number is the first half of a pair of escapes. -/
def isLeading (n : Nat) : Bool := 0xd800 ≤ n && n ≤ 0xdbff

/-- Whether a number is the second half of a pair of escapes. -/
def isTrailing (n : Nat) : Bool := 0xdc00 ≤ n && n ≤ 0xdfff

/-- Takes a character that the second half of a pair begins with. -/
def pairMark (c : Char) : Reader Unit := do
  match ← peek with
  | none => failHere (.unexpectedEnd .string)
  | some found => if found = c then advance else failAhead .incompleteEscape

/-- The character of an escape by number, or of a pair of them. -/
def unicodeEscape : Reader Char := do
  let n ← hexEscape
  if isTrailing n then failHere .loneSurrogate
  else if isLeading n then
    pairMark '\\'
    pairMark 'u'
    let m ← hexEscape
    if isTrailing m then
      return Char.ofNat ((n - 0xd800) * 0x400 + (m - 0xdc00) + 0x10000)
    else failHere .loneSurrogate
  else return Char.ofNat n

def shortEscape? (c : Char) : Option Char :=
  match c with
  | '"' => some '"'
  | '\\' => some '\\'
  | '/' => some '/'
  | 'b' => some (Char.ofNat 0x08)
  | 'f' => some (Char.ofNat 0x0c)
  | 'n' => some '\n'
  | 'r' => some '\r'
  | 't' => some '\t'
  | _ => none

def escaped : Reader Char := do
  match ← peek with
  | none => failHere (.unexpectedEnd .string)
  | some 'u' =>
    advance
    unicodeEscape
  | some c =>
    match shortEscape? c with
    | some meant =>
      advance
      return meant
    | none => failAhead .invalidEscape

/-- Passes over an escape, whatever it stands for. -/
def skipEscaped : Reader Unit := do
  match ← peek with
  | none => failHere (.unexpectedEnd .string)
  | some 'u' =>
    advance
    let _ ← hexEscape
    return ()
  | some c => if (shortEscape? c).isSome then advance else failAhead .invalidEscape

/-- The rest of a string after its opening quote; `read` holds its characters so far, last first. -/
def stringFrom : (fuel : Nat) → (read : List Char) → Reader String
  | 0, _ => failHere (.unexpectedEnd .string)
  | fuel + 1, read => do
    match ← next with
    | none => failHere (.unexpectedEnd .string)
    | some '"' => return String.ofList read.reverse
    | some '\\' => stringFrom fuel ((← escaped) :: read)
    | some c => if c.toNat < 0x20 then failHere .controlCharacter else stringFrom fuel (c :: read)

def string : Reader String := do stringFrom (← budget) []

/-- Passes over the rest of a string. Unlike in a string that is read, a control character is
reported in front of it. -/
def skipStringFrom : (fuel : Nat) → Reader Unit
  | 0 => failHere (.unexpectedEnd .string)
  | fuel + 1 => do
    match ← peek with
    | none => failHere (.unexpectedEnd .string)
    | some '"' => advance
    | some '\\' =>
      advance
      skipEscaped
      skipStringFrom fuel
    | some c =>
      if c.toNat < 0x20 then failHere .controlCharacter
      else
        advance
        skipStringFrom fuel

def skipString : Reader Unit := do skipStringFrom (← budget)

/-! ## Numbers -/

/-- A number as it is written. -/
structure Number where
  negative : Bool
  whole : Nat
  fraction : List Nat := []
  exponent : Int := 0
  isReal : Bool := false
deriving DecidableEq, Repr

/-- Whether a number is zero. -/
def Number.isZero (n : Number) : Bool := n.whole == 0 && n.fraction.all (· == 0)

/-- The digits at the front of a text; `read` holds those so far, last first. -/
def digitsFrom : (fuel : Nat) → (read : List Nat) → Reader (List Nat)
  | 0, read => return read.reverse
  | fuel + 1, read => do
    match (← peek).bind Reading.digit? with
    | some d =>
      advance
      digitsFrom fuel (d :: read)
    | none => return read.reverse

def digits : Reader (List Nat) := do digitsFrom (← budget) []

/-- The digits before the point. A number of more than one digit does not begin with zero. `ends` is
the fault of a text that ends here. -/
def wholePart (ends : Cause) : Reader Nat := do
  match ← peek with
  | none => failHere ends
  | some '0' =>
    advance
    if (← peek).any Char.isDigit then failAhead .invalidNumber else return 0
  | some c =>
    match Reading.digit? c with
    | some _ => return (← digits).foldl (fun n d => 10 * n + d) 0
    | none => failAhead .invalidNumber

/-- The digits behind the point, if there is one. -/
def fractionPart (ends : Cause) (number : Number) : Reader Number := do
  if (← peek) = some '.' then
    advance
    let fraction ← digits
    if fraction.isEmpty then
      if (← peek).isSome then failAhead .invalidNumber else failAhead ends
    else return { number with fraction, isReal := true }
  else return number

/-- The largest exponent that a number other than zero may have. -/
def maxExponent : Nat := 0x7fffffff

/-- The digits of an exponent. If it is `bounded`, the digit that takes it beyond `maxExponent` is a
fault, and what follows is not looked at. -/
def exponentDigits (bounded : Bool) : (fuel n : Nat) → Reader Nat
  | 0, n => return n
  | fuel + 1, n => do
    match (← peek).bind Reading.digit? with
    | some d =>
      advance
      if bounded && maxExponent < 10 * n + d then failHere .numberOutOfRange
      else exponentDigits bounded fuel (10 * n + d)
    | none => return n

/-- The exponent, if there is one. It is bounded if it is positive, unless the number is zero or is
`skipped`. -/
def exponentPart (ends : Cause) (skipped : Bool) (number : Number) : Reader Number := do
  if (← peek) = some 'e' ∨ (← peek) = some 'E' then
    advance
    let mark ← peek
    if mark = some '+' ∨ mark = some '-' then advance
    match ← peek with
    | none => failHere ends
    | some c =>
      match Reading.digit? c with
      | some _ =>
        let bounded := !skipped && mark != some '-' && !number.isZero
        let size ← exponentDigits bounded (← budget) 0
        let exponent : Int := if mark = some '-' then -(size : Int) else size
        return { number with exponent, isReal := true }
      | none => failAhead .invalidNumber
  else return number

/-- A number without its sign. -/
def numberAs (ends : Cause) (skipped negative : Bool) : Reader Number := do
  let whole ← wholePart ends
  let n ← fractionPart ends { negative := negative, whole := whole }
  exponentPart ends skipped n

/-- A number without its sign, of which the value counts. -/
def number (negative : Bool) : Reader Number := numberAs (.unexpectedEnd .value) false negative

/-- The whole number of 64 bits that a number is, if it is one. Minus zero is none. -/
def Number.int? (n : Number) : Option Int :=
  if n.isReal then none
  else if n.negative then
    if n.whole ≠ 0 ∧ 2 * n.whole ≤ Scaling.wordLimit then some (-(n.whole : Int)) else none
  else if n.whole < Scaling.wordLimit then some n.whole
  else none

/-- The float of a number, unless it is beyond all floats. -/
def Number.float? (n : Number) : Option Float :=
  (Scaling.float? n.whole n.fraction n.exponent).map fun x => if n.negative then -x else x

/-! ## Values that are skipped -/

/-- What may come next while values are skipped. -/
inductive Expectation
  | value
  /-- The end of what has just been opened, or its first item. -/
  | firstItem
  /-- The end of what is open, or a comma. -/
  | nextItem
deriving DecidableEq, Repr

/-- The fault of a text that goes on wrongly after an item. -/
def itemEnd (inside : Enclosure) : Cause :=
  if inside = .object then .expectedObjectEnd else .expectedListEnd

/-- Passes over the colon between a key and its value. -/
def colon : Reader Unit := do
  match ← skipBlanks with
  | some ':' => advance
  | some _ => failAhead .expectedColon
  | none => failAhead (.unexpectedEnd .object)

/-- Passes over what stands before a value in a list or an object: a key in the latter. -/
def skipKey (inside : Enclosure) : Reader Unit := do
  if inside = .object then
    match ← skipBlanks with
    | some '"' =>
      advance
      skipString
      colon
    | some _ => failAhead .keyNotString
    | none => failAhead (.unexpectedEnd .object)

def skipNumber : Reader Unit := do
  let _ ← numberAs .invalidNumber true false
  return ()

/-- Passes over a value and what is left of the lists and objects around it, innermost first. -/
def skipFrom : (fuel : Nat) → Expectation → List Enclosure → Reader Unit
  | 0, _, _ => failHere .expectedValue
  | fuel + 1, .value, around => do
    match ← skipBlanks with
    | none => failAhead (.unexpectedEnd .value)
    | some '[' => advance; skipFrom fuel .firstItem (.list :: around)
    | some '\x7b' => advance; skipFrom fuel .firstItem (.object :: around)
    | some '"' => advance; skipString; skipFrom fuel .nextItem around
    | some 'n' => advance; word ['u', 'l', 'l']; skipFrom fuel .nextItem around
    | some 't' => advance; word ['r', 'u', 'e']; skipFrom fuel .nextItem around
    | some 'f' => advance; word ['a', 'l', 's', 'e']; skipFrom fuel .nextItem around
    | some '-' => advance; skipNumber; skipFrom fuel .nextItem around
    | some c =>
      if c.isDigit then
        skipNumber
        skipFrom fuel .nextItem around
      else failAhead .expectedValue
  | _ + 1, _, [] => return ()
  | fuel + 1, expected, inside :: around => do
    let close := if inside = .object then '\x7d' else ']'
    match ← skipBlanks with
    | none => failAhead (.unexpectedEnd inside)
    | some c =>
      if c = close then
        advance
        skipFrom fuel .nextItem around
      else if expected = .firstItem then
        skipKey inside
        skipFrom fuel .value (inside :: around)
      else if c = ',' then
        advance
        skipKey inside
        skipFrom fuel .value (inside :: around)
      else failAhead (itemEnd inside)

def skipValue : Reader Unit := do skipFrom (← budget) .value []

/-! ## Values of the wrong kind -/

def showNumber (n : Number) : Reader String :=
  match n.int? with
  | some i => return "integer \x60" ++ toString i ++ "\x60"
  | none =>
    match n.float? with
    | some x => return "floating point \x60" ++ Shortest.render x ++ "\x60"
    | none => failHere .numberOutOfRange

/-- The description of the value at the cursor, which begins with a given character. -/
def showValue (c : Char) : Reader String := do
  match c with
  | 'n' => advance; word ['u', 'l', 'l']; return "null"
  | 't' => advance; word ['r', 'u', 'e']; return "boolean \x60true\x60"
  | 'f' => advance; word ['a', 'l', 's', 'e']; return "boolean \x60false\x60"
  | '-' => advance; showNumber (← number true)
  | '"' =>
    advance
    let s ← string
    return "string " ++ Printable.quote s
  | '[' => return "sequence"
  | '\x7b' => return "map"
  | c =>
    if c.isDigit then showNumber (← number false)
    else failAhead .expectedValue

def wrongType (c : Char) (expected : String) : Reader α :=
  locate do
    let found ← showValue c
    failContent ("invalid type: " ++ found ++ ", expected " ++ expected)

/-! ## Values of the right kind -/

/-- Reads a value whose first character decides what it is. -/
def value (read : Char → Reader α) : Reader α := do
  match ← skipBlanks with
  | none => failAhead (.unexpectedEnd .value)
  | some c => locate (read c)

def bool : Reader Bool :=
  value fun c => do
    match c with
    | 't' => advance; word ['r', 'u', 'e']; return true
    | 'f' => advance; word ['a', 'l', 's', 'e']; return false
    | c => wrongType c "a boolean"

def int (low high : Int) (expected : String) : Reader Int :=
  value fun c => do
    if c = '-' ∨ c.isDigit then
      if c = '-' then advance
      let n ← number (c = '-')
      match n.int? with
      | some i =>
        if low ≤ i ∧ i ≤ high then return i
        else
          failContent ("invalid value: integer \x60" ++ toString i ++ "\x60, expected " ++ expected)
      | none =>
        let found ← showNumber n
        failContent ("invalid type: " ++ found ++ ", expected " ++ expected)
    else wrongType c expected

def null : Reader Unit :=
  value fun c => do
    match c with
    | 'n' => advance; word ['u', 'l', 'l']
    | c => wrongType c "unit"

/-- A value, or nothing. -/
def option (item : Reader α) : Reader (Option α) := do
  match ← skipBlanks with
  | some 'n' => advance; word ['u', 'l', 'l']; return none
  | _ => return some (← item)

/-! ## Lists -/

def anotherItem (first : Bool) : Reader Bool := do
  match ← skipBlanks with
  | none => failAhead (.unexpectedEnd .list)
  | some ']' => return false
  | some c =>
    if first then return true
    else if c = ',' then
      advance
      match ← skipBlanks with
      | none => failAhead (.unexpectedEnd .value)
      | some ']' => failAhead .trailingComma
      | some _ => return true
    else failAhead .expectedListEnd

def listEnd : Reader Unit := do
  match ← skipBlanks with
  | none => failAhead (.unexpectedEnd .list)
  | some ']' => advance
  | some ',' =>
    advance
    match ← skipBlanks with
    | some ']' => failAhead .trailingComma
    | _ => failAhead .trailingCharacters
  | some _ => failAhead .trailingCharacters

def itemsFrom (item : Reader α) : (fuel : Nat) → (first : Bool) → Reader (List α)
  | 0, _ => return []
  | fuel + 1, first => do
    if ← anotherItem first then
      let a ← item
      return a :: (← itemsFrom item fuel false)
    else return []

def list (item : Reader α) : Reader (List α) :=
  value fun c => do
    if c = '[' then
      advance
      closing (do itemsFrom item (← budget) true) listEnd
    else wrongType c "a sequence"

/-- An item of a list that has to have a given number of them. -/
def element (first : Bool) (index count : Nat) (item : Reader α) : Reader α := do
  if ← anotherItem first then item
  else
    failContent ("invalid length " ++ toString index ++ ", expected a tuple of size " ++
      toString count)

def pair (a : Reader α) (b : Reader β) : Reader (α × β) :=
  value fun c => do
    if c = '[' then
      advance
      closing (do return (← element true 0 2 a, ← element false 1 2 b)) listEnd
    else wrongType c "a tuple of size 2"

/-! ## Whole texts -/

/-- Reads a text that holds one value and nothing else. -/
def readAll (r : Reader α) (text : String) : Except Fault α :=
  let whole : Reader α := do
    let a ← r
    match ← skipBlanks with
    | none => return a
    | some _ => failAhead .trailingCharacters
  (whole ⟨text.toList, {}⟩).1

end Reader

end Deinterlace.Json

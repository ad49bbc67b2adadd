import Deinterlace.Fault
import Deinterlace.Options
import Deinterlace.Text.Blank
import Deinterlace.Text.Lowercase

/-!
# Suboptions

Options as a line of text: items `key=value` separated by colons or commas. Blanks around items,
keys and values do not count, nor do empty items; a key alone means `yes`. Items are read from left
to right, so a later one overrides an earlier one, and the first that cannot be read is the error.
-/
namespace Deinterlace

/-- The mode of a lower-case name; deinterlacing can be switched off under three names. -/
def Mode.ofName? (name : String) : Option Mode :=
  match name with
  | "no" | "none" | "off" => some .off
  | "first-field" => some .firstField
  | "bob" => some .bob
  | "weave" => some .weave
  | "motion-adaptive" => some .motionAdaptive
  | "motion-compensated" => some .motionCompensated
  | _ => none

def Mode.read (text : List Char) : Except Error Mode :=
  let name := String.ofList (Lowercase.ofChars text)
  match Mode.ofName? name with
  | some mode => .ok mode
  | none => .error (.invalidOption ("unknown deint mode '" ++ name ++ "'"))

namespace Suboptions

/-- What one item sets. -/
inductive Setting
  | mode (mode : Mode)
  | interlacedOnly (on : Bool)
  | swapReferences (on : Bool)
deriving DecidableEq, Repr

/-- The options that can be set. -/
inductive Key
  | mode
  | interlacedOnly
  | swapReferences
deriving DecidableEq, Repr

/-- The option of a key; each has more than one spelling. -/
def Key.ofName? (name : String) : Option Key :=
  match name with
  | "deint" | "deinterlace-algorithm" | "deinterlace_algorithm" => some .mode
  | "interlaced-only" | "interlaced_only" => some .interlacedOnly
  | "reversal-bug" | "reversal-workaround" | "reversal_workaround" => some .swapReferences
  | _ => none

def isSeparator (c : Char) : Bool := c == ':' || c == ','

def split : List Char → List (List Char)
  | [] => [[]]
  | c :: rest =>
    if isSeparator c then [] :: split rest
    else
      match split rest with
      | piece :: pieces => (c :: piece) :: pieces
      | [] => [[c]]

theorem split_ne_nil (cs : List Char) : split cs ≠ [] := by
  cases cs with
  | nil => simp [split]
  | cons c rest =>
    simp only [split]
    split
    · simp
    · split <;> simp

/-- A separator between two texts keeps their pieces apart. -/
theorem split_append_cons {c : Char} (h : isSeparator c = true) (a b : List Char) :
    split (a ++ c :: b) = split a ++ split b := by
  induction a with
  | nil => simp [split, h]
  | cons d rest ih =>
    simp only [List.cons_append, split, ih]
    split
    · rfl
    · cases hs : split rest with
      | nil => exact absurd hs (split_ne_nil rest)
      | cons piece pieces => simp

def items (text : List Char) : List (List Char) :=
  ((split text).map Blank.trim).filter (!·.isEmpty)

/-- A separator between two texts keeps their items apart. -/
theorem items_append_cons {c : Char} (h : isSeparator c = true) (a b : List Char) :
    items (a ++ c :: b) = items a ++ items b := by
  simp [items, split_append_cons h]

/-- The key and the value of an item. The value begins after the first equals sign. -/
def assignment (item : List Char) : List Char × List Char :=
  match item.dropWhile (· != '=') with
  | _ :: value => (Blank.trim (item.takeWhile (· != '=')), Blank.trim value)
  | [] => (item, ['y', 'e', 's'])

def switch? (word : String) : Option Bool :=
  match word with
  | "yes" | "true" | "1" | "on" => some true
  | "no" | "false" | "0" | "off" => some false
  | _ => none

def readSwitch (key : String) (text : List Char) : Except Error Bool :=
  let word := String.ofList (Lowercase.ofChars text)
  match switch? word with
  | some on => .ok on
  | none => .error (.invalidOption ("'" ++ key ++ "' expects yes/no, got '" ++ word ++ "'"))

def readItem (item : List Char) : Except Error Setting :=
  let (key, value) := assignment item
  let name := String.ofList key
  match Key.ofName? name with
  | some .mode => (Mode.read value).map Setting.mode
  | some .interlacedOnly => (readSwitch name value).map Setting.interlacedOnly
  | some .swapReferences => (readSwitch name value).map Setting.swapReferences
  | none => .error (.invalidOption ("unknown option '" ++ name ++ "'"))

def Setting.apply (setting : Setting) (o : Options) : Options :=
  match setting with
  | .mode selected => { o with mode := selected }
  | .interlacedOnly on => { o with interlacedOnly := on }
  | .swapReferences on => { o with swapReferences := on }

def readItems : Options → List (List Char) → Except Error Options
  | o, [] => .ok o
  | o, item :: rest =>
    match readItem item with
    | .ok setting => readItems (setting.apply o) rest
    | .error e => .error e

/-- Items are read one after the other, up to the first that cannot be read. -/
theorem readItems_append (o : Options) (xs ys : List (List Char)) :
    readItems o (xs ++ ys) = (readItems o xs).bind (readItems · ys) := by
  induction xs generalizing o with
  | nil => rfl
  | cons item rest ih =>
    simp only [List.cons_append, readItems]
    cases readItem item with
    | ok setting => exact ih _
    | error e => rfl

def yesNo (on : Bool) : String := if on then "yes" else "no"

end Suboptions

/-- Reads options; those that no item sets have their defaults. -/
def Options.ofSuboptions (text : String) : Except Error Options :=
  Suboptions.readItems {} (Suboptions.items text.toList)

/-- Writes options, all of them. -/
def Options.toSuboptions (o : Options) : String :=
  "deint=" ++ o.mode.name ++
    ":interlaced-only=" ++ Suboptions.yesNo o.interlacedOnly ++
    ":reversal-bug=" ++ Suboptions.yesNo o.swapReferences

end Deinterlace

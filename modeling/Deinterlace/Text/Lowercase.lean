import Deinterlace.Text.Lowercase.Table

/-!
# Lower case

`Lowercase.ofChars` turns text into lower case by the full Unicode rules: nearly every letter has a
form of its own, the dotted capital I becomes two characters, and a capital sigma becomes a final
sigma at the end of a word.
-/
namespace Deinterlace.Lowercase

/-- Whether a number lies in one of several ranges, their ends included. -/
def inRanges (ranges : List (Nat × Nat)) (n : Nat) : Bool :=
  ranges.any fun (first, last) => first ≤ n && n ≤ last

def isCased (c : Char) : Bool := inRanges casedRanges c.toNat

/-- The characters that are passed over in search of the letter before or after. -/
def isIgnorable (c : Char) : Bool := inRanges ignorableRanges c.toNat

/-- The lower-case form of a code point outside ASCII, or the code point itself. -/
def formOf (n : Nat) : Nat :=
  let entry? := formRanges.find? fun (first, last, step, _) =>
    first ≤ n && n ≤ last && (n - first) % step == 0
  match entry? with
  | some (first, _, _, target) => target + (n - first)
  | none => n

def lowerChar (c : Char) : List Char :=
  if c.toNat < 0x80 then [c.toLower]
  else if c.toNat = 0x130 then ['i', Char.ofNat 0x307]
  else [Char.ofNat (formOf c.toNat)]

/-- The capital sigma, whose form depends on its neighbours. -/
def capitalSigma : Char := Char.ofNat 0x3a3

/-- Whether the nearest character that is not passed over is cased. -/
def letterFollows (cs : List Char) : Bool :=
  match cs.dropWhile isIgnorable with
  | c :: _ => isCased c
  | [] => false

/-- The form of a capital sigma: final after a letter if no letter follows. `before` runs backwards
from it and `after` forwards. -/
def lowerSigma (before after : List Char) : Char :=
  if letterFollows before && !letterFollows after then Char.ofNat 0x3c2 else Char.ofNat 0x3c3

/-- The rest of a text in lower case, given the characters before it, last first. -/
def lowerFrom : (before : List Char) → List Char → List Char
  | _, [] => []
  | before, c :: rest =>
    let form := if c = capitalSigma then [lowerSigma before rest] else lowerChar c
    form ++ lowerFrom (c :: before) rest

def ofChars (cs : List Char) : List Char := lowerFrom [] cs

end Deinterlace.Lowercase

import Deinterlace.Decimal.Binary64

/-!
# Reading numbers

Numbers as they are given on a command line: whole numbers with an optional sign, and decimals with
an optional point and exponent, or one of the words for infinity and for no number.
-/
namespace Deinterlace.Reading

def digit? (c : Char) : Option Nat := if c.isDigit then some (c.toNat - '0'.toNat) else none

/-- The value of a run of digits after a given number. -/
def digitsFrom (n : Nat) (cs : List Char) : Nat :=
  cs.foldl (fun n c => 10 * n + (c.toNat - '0'.toNat)) n

/-- The sign in front of a number, and what follows it. -/
def sign (cs : List Char) : Bool × List Char :=
  match cs with
  | '-' :: rest => (true, rest)
  | '+' :: rest => (false, rest)
  | _ => (false, cs)

def integer? (cs : List Char) : Option Int :=
  let (negative, rest) := sign cs
  if rest.isEmpty || !rest.all Char.isDigit then none
  else
    let n : Int := digitsFrom 0 rest
    some (if negative then -n else n)

/-- A decimal with an exponent: digits, how many of them stand after the point, and the
exponent. -/
structure Scientific where
  mantissa : Nat
  places : Nat
  exponent : Int
deriving DecidableEq, Repr

/-- The exponent at the end of a decimal; the end itself stands for zero. -/
def exponent? (cs : List Char) : Option Int :=
  match cs with
  | [] => some 0
  | e :: rest => if e = 'e' ∨ e = 'E' then integer? rest else none

/-- A decimal without a sign. There has to be a digit before or after the point. -/
def scientific? (cs : List Char) : Option Scientific :=
  let whole := cs.takeWhile Char.isDigit
  let afterWhole := cs.dropWhile Char.isDigit
  let (fraction, rest) :=
    match afterWhole with
    | '.' :: more => (more.takeWhile Char.isDigit, more.dropWhile Char.isDigit)
    | _ => ([], afterWhole)
  if whole.isEmpty && fraction.isEmpty then none
  else
    (exponent? rest).map fun exponent =>
      ⟨digitsFrom 0 (whole ++ fraction), fraction.length, exponent⟩

/-- The bits of the float nearest to a decimal. Decimals beyond all floats are settled without
computing them. -/
def Scientific.bits (s : Scientific) : Nat :=
  let power := s.exponent - s.places
  let size := power + (Nat.toDigits 10 s.mantissa).length
  if s.mantissa = 0 ∨ size < -400 then 0
  else if 400 < size then Binary64.infinityBits
  else if 0 ≤ power then Binary64.bitsOfRatio (s.mantissa * Nat.pow 10 power.toNat) 1
  else Binary64.bitsOfRatio s.mantissa (Nat.pow 10 (-power).toNat)

/-- The bits of the word for infinity or for no number, in letters of either case. -/
def word? (cs : List Char) : Option Nat :=
  match String.ofList (cs.map Char.toLower) with
  | "inf" | "infinity" => some Binary64.infinityBits
  | "nan" => some 0x7ff8000000000000
  | _ => none

/-- A decimal, or one of the words, with an optional sign. -/
def float? (cs : List Char) : Option Float :=
  let (negative, rest) := sign cs
  let bits? := (word? rest).or ((scientific? rest).map (·.bits))
  bits?.map (Binary64.ofBits negative)

end Deinterlace.Reading

import Deinterlace.Decimal.Binary64

/-!
# The shortest decimal that reads back

`Shortest.digits` gives the decimal with the fewest digits among those that read back as a given
float, and of several the one nearest to it. `Shortest.render` writes it: positionally for sizes
from a hundred-thousandth up to ten to the sixteenth, with a signed exponent otherwise.
-/
namespace Deinterlace.Shortest

/-- A positive float as a ratio, with the ends of the interval of numbers that read back as it.
All three have the same denominator. -/
structure Interval where
  low : Nat
  value : Nat
  high : Nat
  den : Nat
  /-- Whether the ends read back as the float, too. -/
  closed : Bool
deriving Repr

/-- The interval around a positive finite float. Below a power of two the floats lie closer. -/
def Interval.of (x : Float) : Interval :=
  let (whole, exponent) := Binary64.decompose x
  let lowGap :=
    if whole = Binary64.leadingBit ∧ exponent ≠ -Int.ofNat Binary64.smallestExponent then 1 else 2
  let (unit, den) := Binary64.scale 1 1 (exponent - 2)
  { low := (4 * whole - lowGap) * unit
    value := 4 * whole * unit
    high := (4 * whole + 2) * unit
    den := den
    closed := whole % 2 = 0 }

/-- Whether `n / d` reads back. -/
def Interval.contains (i : Interval) (n d : Nat) : Bool :=
  if i.closed then i.low * d ≤ n * i.den && n * i.den ≤ i.high * d
  else i.low * d < n * i.den && n * i.den < i.high * d

/-- The number of decimal digits of a natural number; zero has none. -/
def digitCount (n : Nat) : Nat := if n = 0 then 0 else (Nat.toDigits 10 n).length

/-- The place of the decimal point of `n / d` in front of its first digit. -/
def pointOf (n d : Nat) : Int :=
  if d ≤ n then digitCount (n / d) else 1 - (digitCount ((d - 1) / n) : Int)

def powerOfTen (k : Int) : Nat × Nat :=
  if 0 ≤ k then (Nat.pow 10 k.toNat, 1) else (1, Nat.pow 10 (-k).toNat)

/-- The decimal of a given number of digits that reads back and is nearest, if there is one: a
whole number and the exponent of its last digit. -/
def onGrid? (i : Interval) (point : Int) (count : Nat) : Option (Nat × Int) :=
  let exponent := point - count
  let (n, d) := powerOfTen exponent
  let below := i.value * d / (i.den * n)
  let above := below + 1
  let reads (c : Nat) : Bool := i.contains (c * n) d
  let nearer : Nat :=
    -- twice the value against the sum of the two neighbours
    let twice := 2 * i.value * d
    let sum := (below + above) * (i.den * n)
    if twice < sum then below else if sum < twice then above else below + below % 2
  if reads below && reads above then some (nearer, exponent)
  else if reads below then some (below, exponent)
  else if reads above then some (above, exponent)
  else none

/-- The first decimal found with `count`, `count + 1`, … digits. -/
def search (i : Interval) (point : Int) : (fuel count : Nat) → Nat × Int
  | 0, count => (i.value / i.den, point - count)
  | fuel + 1, count =>
    match onGrid? i point count with
    | some found => found
    | none => search i point fuel (count + 1)

/-- A whole number without zeros at its end, and the exponent of its last digit. -/
def stripZeros : (fuel n : Nat) → Int → Nat × Int
  | 0, n, exponent => (n, exponent)
  | fuel + 1, n, exponent =>
    if n % 10 = 0 ∧ n ≠ 0 then stripZeros fuel (n / 10) (exponent + 1) else (n, exponent)

/-- The shortest decimal for a positive finite float: a whole number and the exponent of its last
digit. Seventeen digits always suffice. -/
def digits (x : Float) : Nat × Int :=
  let i := Interval.of x
  let (n, exponent) := search i (pointOf i.value i.den) 17 1
  stripZeros 20 n exponent

/-- The text of an exponent, which has a sign in either case. -/
def exponentText (exponent : Int) : String :=
  if exponent < 0 then toString exponent else "+" ++ toString exponent

def written (n : Nat) (exponent : Int) : String :=
  let text := Nat.toDigits 10 n
  let point := exponent + text.length
  let zeros (k : Int) : List Char := List.replicate k.toNat '0'
  let chars : List Char :=
    if 0 ≤ exponent ∧ point ≤ 16 then text ++ zeros exponent ++ ['.', '0']
    else if 0 < point ∧ point ≤ 16 then
      text.take point.toNat ++ ['.'] ++ text.drop point.toNat
    else if -5 < point ∧ point ≤ 0 then ['0', '.'] ++ zeros (-point) ++ text
    else
      let mantissa := if text.length = 1 then text else text.take 1 ++ ['.'] ++ text.drop 1
      mantissa ++ ['e'] ++ (exponentText (point - 1)).toList
  String.ofList chars

def render (x : Float) : String :=
  let sign := if Binary64.isNegative x then "-" else ""
  if x == 0 then sign ++ "0.0"
  else
    let (n, exponent) := digits x.abs
    sign ++ written n exponent

end Deinterlace.Shortest

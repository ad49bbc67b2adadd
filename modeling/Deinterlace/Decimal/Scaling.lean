import Deinterlace.Decimal.Binary64

/-!
# Floats by scaling

`Scaling.float?` makes a float of a decimal in two roundings: of its leading digits, and of their
product with a power of ten. Digits are taken while the number they make fits in 64 bits, first from
the whole part and then from the fraction. The result may be one step away from the nearest float,
and further if a digit of the whole part was left out and one of the fraction was taken.
-/
namespace Deinterlace.Scaling

def largestPower : Nat := 308

def wordLimit : Nat := 0x10000000000000000

/-- The leading digits of a number that fit in 64 bits, and how many more there are. -/
def leading : (fuel n dropped : Nat) → Nat × Nat
  | 0, n, dropped => (n, dropped)
  | fuel + 1, n, dropped =>
    if n < wordLimit then (n, dropped) else leading fuel (n / 10) (dropped + 1)

/-- A number followed by the digits behind the point that fit in 64 bits with it, and the power of
ten that goes with the result, given that of the number. -/
def takeFraction : (n : Nat) → (exponent : Int) → List Nat → Nat × Int
  | n, exponent, [] => (n, exponent)
  | n, exponent, d :: rest =>
    if 10 * n + d < wordLimit then takeFraction (10 * n + d) (exponent - 1) rest
    else (n, exponent)

def power (k : Nat) : Float := Binary64.ofRatio (Nat.pow 10 k) 1

/-- A float times a power of ten, unless that is beyond all floats. A float of 64 bits vanishes
after three steps towards zero, so a fuel of three suffices. -/
def scale : (fuel : Nat) → Float → Int → Option Float
  | 0, x, _ => some x
  | fuel + 1, x, exponent =>
    if exponent.natAbs ≤ largestPower then
      if 0 ≤ exponent then
        let y := x * power exponent.natAbs
        if y.isFinite then some y else none
      else some (x / power exponent.natAbs)
    else if x == 0 then some x
    else if 0 ≤ exponent then none
    else scale fuel (x / power largestPower) (exponent + largestPower)

/-- The float of a decimal, given by its whole part, the digits of its fraction and its exponent,
unless it is beyond all floats. -/
def float? (whole : Nat) (fraction : List Nat) (exponent : Int) : Option Float :=
  let (n, dropped) := leading (whole.log2 + 1) whole 0
  let (n, shift) := takeFraction n dropped fraction
  scale 4 (Binary64.ofRatio n 1) (exponent + shift)

end Deinterlace.Scaling

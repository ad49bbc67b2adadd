/-!
# Binary floating-point numbers as exact ratios

A finite `Float` is a whole number times a power of two. `Binary64.ofRatio` goes the other way: it
gives the float nearest to a ratio of natural numbers, of two equally near ones the even one.
-/
namespace Deinterlace.Binary64

/-- How many bits the whole number of a float has, unless the float is very small. -/
def precision : Nat := 53

/-- The leading bit of the whole number of a float. It is left out of the float's bits, where the
exponent begins in its place. -/
def leadingBit : Nat := 0x10000000000000

def signBit : Nat := 0x8000000000000000

/-- The power of two of the smallest floats, with its sign changed. -/
def smallestExponent : Nat := 1074

def infinityBits : Nat := 0x7ff0000000000000

/-- The whole number and the power of two of a finite float without its sign. -/
def decompose (x : Float) : Nat × Int :=
  let bits : Nat := x.toBits.toNat % signBit
  let exponent : Nat := bits / leadingBit
  let fraction : Nat := bits % leadingBit
  if exponent = 0 then (fraction, -Int.ofNat smallestExponent)
  else (fraction + leadingBit, Int.ofNat exponent - 1075)

def isNegative (x : Float) : Bool := signBit ≤ x.toBits.toNat

/-- The float of given bits, with a minus sign if asked for. -/
def ofBits (negative : Bool) (bits : Nat) : Float :=
  Float.ofBits ((if negative then bits + signBit else bits).toUInt64)

/-- The quotient of two numbers, to the nearest whole number and to the even one of two. -/
def roundQuotient (num den : Nat) : Nat :=
  let q := num / den
  let rest := 2 * (num % den)
  if rest < den then q
  else if den < rest then q + 1
  else q + q % 2

/-- A ratio times a power of two, as a ratio. -/
def scale (num den : Nat) (shift : Int) : Nat × Nat :=
  if 0 ≤ shift then (num * Nat.pow 2 shift.toNat, den)
  else (num, den * Nat.pow 2 (-shift).toNat)

/-- The bits of the float nearest to `num / den`. -/
def bitsOfRatio (num den : Nat) : Nat :=
  if num = 0 then 0
  else
    -- the shift at which the quotient has as many bits as a float, or one more
    let shift : Int := Int.ofNat (precision + den.log2) - Int.ofNat num.log2
    let (n, d) := scale num den shift
    let shift := if Nat.pow 2 precision ≤ n / d then shift - 1 else shift
    let shift := min shift (Int.ofNat smallestExponent)
    let (n, d) := scale num den shift
    -- a quotient of full width carries its leading bit into the exponent
    let bits := roundQuotient n d + (Int.ofNat smallestExponent - shift).toNat * leadingBit
    min bits infinityBits

/-- The float nearest to `num / den`. -/
def ofRatio (num den : Nat) : Float := ofBits false (bitsOfRatio num den)

end Deinterlace.Binary64

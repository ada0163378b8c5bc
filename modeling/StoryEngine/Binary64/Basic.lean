/-!
# Double-precision numbers

The numbers of the 64-bit binary format, held as a sign, a significand and a power of two, so that
rounding is exact arithmetic on natural numbers. Every operation that makes a number goes through
`ofRatio`, which rounds a quotient to the nearest number of the format, ties to even.
-/

namespace StoryEngine

/-- A number of the 64-bit binary format: `±significand * 2 ^ exponent`, an infinity, or no number.
-/
inductive Binary64 where
  | finite (negative : Bool) (significand : Nat) (exponent : Int)
  | infinite (negative : Bool)
  | nan
  deriving DecidableEq, Repr, Inhabited

namespace Binary64

/-- Significands have at most 53 bits. -/
def precision : Nat := 53

/-- The smallest power of two that a number is a multiple of. -/
def minExponent : Int := -1074

/-- The largest power of two that goes with a full significand. -/
def maxExponent : Int := 971

/-- Zero with a sign. -/
def signedZero (negative : Bool) : Binary64 :=
  finite negative 0 minExponent

/-- The natural number nearest to a quotient, the even one of two. -/
def roundQuotient (num den : Nat) : Nat :=
  let down := num / den
  let rest := 2 * (num % den)
  if rest < den then down
  else if den < rest then down + 1
  else down + down % 2

/-- A quotient of natural numbers times a power of two, as a quotient of natural numbers. -/
def scaleQuotient (num den : Nat) (power : Int) : Nat × Nat :=
  if 0 ≤ power then (num * Nat.pow 2 power.toNat, den)
  else (num, den * Nat.pow 2 (-power).toNat)

/-- The power of two at or just below a positive quotient. -/
def floorLog2 (num den : Nat) : Int :=
  let guess : Int := (num.log2 : Int) - den.log2
  let (num', den') := scaleQuotient num den (-guess)
  if den' ≤ num' then guess else guess - 1

/-- The number with this significand and exponent, where the significand may need one bit more than
the format has. -/
def pack (negative : Bool) (significand : Nat) (exponent : Int) : Binary64 :=
  let (significand, exponent) :=
    if significand = Nat.pow 2 precision then (Nat.pow 2 (precision - 1), exponent + 1)
    else (significand, exponent)
  if maxExponent < exponent then infinite negative else finite negative significand exponent

/-- The number nearest to a quotient. -/
def ofRatio (negative : Bool) (num den : Nat) : Binary64 :=
  if num = 0 then
    signedZero negative
  else
    let exponent := max (floorLog2 num den - (precision - 1)) minExponent
    let (num', den') := scaleQuotient num den (-exponent)
    pack negative (roundQuotient num' den') exponent

/-- The number nearest to a natural number. -/
def ofNat (n : Nat) : Binary64 :=
  ofRatio false n 1

/-- The number nearest to an integer. -/
def ofInt (n : Int) : Binary64 :=
  ofRatio (n < 0) n.natAbs 1

/-- The number nearest to a quotient of scaled natural numbers. -/
def ofScaled (negative : Bool) (num den : Nat) (power : Int) : Binary64 :=
  let (num', den') := scaleQuotient num den power
  ofRatio negative num' den'

/-- The same number with the other sign. -/
def neg : Binary64 → Binary64
  | finite negative significand exponent => finite (!negative) significand exponent
  | infinite negative => infinite (!negative)
  | nan => nan

/-- Whether the number is zero of either sign. -/
def isZero : Binary64 → Bool
  | finite _ significand _ => significand = 0
  | _ => false

/-- Whether the number is an infinity. -/
def isInfinite : Binary64 → Bool
  | infinite _ => true
  | _ => false

end Binary64

end StoryEngine

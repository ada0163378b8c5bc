import StoryEngine.Binary64.Arithmetic
import StoryEngine.Json.Basic
import StoryEngine.Text.Numeral

/-!
# JSON numerals

A numeral without fraction and exponent is an integer if it fits in 64 bits, signed or unsigned.
Every other numeral is a double-precision number: its digits are taken into a 64-bit significand as
long as they fit, and the significand is then multiplied or divided by a power of ten.
-/

namespace StoryEngine.Json

/-- The parts of a numeral; digits are decimal characters. -/
structure Numeral where
  negative : Bool
  whole : List Char
  fraction : Option (List Char)
  /-- Sign (true for minus) and digits of the exponent. -/
  exponent : Option (Bool × List Char)

namespace Numeral

/-- The largest significand. -/
def maxSignificand : Nat := UInt64.size - 1

/-- The largest magnitude that an exponent is read to. -/
def maxExponent : Nat := Int32.maxValue.toNatClampNeg

/-- The largest power of ten used in one step. -/
def maxPower : Nat := 308

/-- Takes digits into a significand while it fits, and returns those left over. -/
def takeDigits (significand : Nat) : List Char → Nat × List Char
  | [] => (significand, [])
  | c :: rest =>
    let next := 10 * significand + Text.digitValue c
    if next ≤ maxSignificand then takeDigits next rest else (significand, c :: rest)

/-- Divides by a power of ten, in steps of the largest power. -/
def scaleDown (x : Binary64) (power : Nat) : Binary64 :=
  if power ≤ maxPower then
    x.div (.ofNat (Nat.pow 10 power))
  else if x.isZero then
    x
  else
    scaleDown (x.div (.ofNat (Nat.pow 10 maxPower))) (power - maxPower)
termination_by power
decreasing_by simp only [maxPower] at *; omega

/-- The number `significand * 10 ^ power`, if it is finite. -/
def scaled? (significand : Nat) (power : Int) : Option Binary64 :=
  let x := Binary64.ofNat significand
  if power < 0 then
    some (scaleDown x power.natAbs)
  else if power ≤ maxPower then
    let x := x.mul (.ofNat (Nat.pow 10 power.toNat))
    if x.isInfinite then none else some x
  else if x.isZero then
    some x
  else
    none

/-- The magnitude of a numeral as a double-precision number, if it is finite. -/
def magnitude? (numeral : Numeral) : Option Binary64 :=
  let (significand, left) := takeDigits 0 numeral.whole
  let fraction := numeral.fraction.getD []
  let (significand, fractionLeft) := takeDigits significand fraction
  let power : Int := left.length - (fraction.length - fractionLeft.length : Nat)
  match numeral.exponent with
  | none => scaled? significand power
  | some (minus, digits) =>
    let exponent := Text.digitsValue digits
    if maxExponent < exponent then
      if significand = 0 || minus then some (.signedZero false) else none
    else
      scaled? significand (if minus then power - exponent else power + exponent)

/-- The value of a numeral as a double-precision number, if it is finite. -/
def float? (numeral : Numeral) : Option Json :=
  numeral.magnitude?.map fun x => float (if numeral.negative then x.neg else x)

/-- The value of a numeral, if it has one. -/
def value? (numeral : Numeral) : Option Json :=
  match numeral.fraction, numeral.exponent with
  | none, none =>
    let n := Text.digitsValue numeral.whole
    if numeral.negative then
      if 0 < n ∧ n ≤ Int64.minValue.toInt.natAbs then some (int (-n)) else numeral.float?
    else if n ≤ maxSignificand then
      some (int n)
    else
      numeral.float?
  | _, _ => numeral.float?

end Numeral

end StoryEngine.Json

import StoryEngine.Binary64.Basic

/-!
# Arithmetic of double-precision numbers

Products, quotients, comparison and integer powers. Each result is the exact one, rounded once.
A power multiplies the squares of its base that the binary digits of the exponent select, the
lowest first, and a negative power is the reciprocal of the positive one.
-/

namespace StoryEngine.Binary64

/-- The product of two numbers. -/
def mul : Binary64 → Binary64 → Binary64
  | nan, _ | _, nan => nan
  | infinite s, infinite t => infinite (s != t)
  | infinite s, finite t m _ | finite t m _, infinite s => if m = 0 then nan else infinite (s != t)
  | finite s m e, finite t n f => ofScaled (s != t) (m * n) 1 (e + f)

/-- The quotient of two numbers. -/
def div : Binary64 → Binary64 → Binary64
  | nan, _ | _, nan => nan
  | infinite _, infinite _ => nan
  | infinite s, finite t _ _ => infinite (s != t)
  | finite s _ _, infinite t => signedZero (s != t)
  | finite s m e, finite t n f =>
    if n = 0 then
      if m = 0 then nan else infinite (s != t)
    else
      ofScaled (s != t) m n (e - f)

/-- A finite magnitude with its sign, in units of `2 ^ unit`. -/
def signedUnits (negative : Bool) (significand : Nat) (exponent unit : Int) : Int :=
  let magnitude : Int := (significand * Nat.pow 2 (exponent - unit).toNat : Nat)
  if negative then -magnitude else magnitude

/-- Whether the first number is less than the second; nothing compares with `nan`. -/
def lt : Binary64 → Binary64 → Bool
  | nan, _ | _, nan => false
  | infinite s, infinite t => s && !t
  | infinite s, finite _ _ _ => s
  | finite _ _ _, infinite t => !t
  | finite s m e, finite t n f =>
    signedUnits s m e (min e f) < signedUnits t n f (min e f)

/-- The lesser of two numbers, where `nan` gives way to the other one. -/
def lesser (x y : Binary64) : Binary64 :=
  if x = nan then y else if lt y x then y else x

/-- The whole part of a number as a natural number at most `limit`; negative numbers and `nan`
become zero. -/
def toNatUpTo (limit : Nat) : Binary64 → Nat
  | nan => 0
  | infinite negative => if negative then 0 else limit
  | finite negative significand exponent =>
    if negative then 0
    else
      let (num, den) := scaleQuotient significand 1 exponent
      min (num / den) limit

/-- Multiplies `acc` by the squares of `base` that the lowest `bits` binary digits of `n` select. -/
def selectSquares : Nat → Binary64 → Binary64 → Nat → Binary64
  | 0, _, acc, _ => acc
  | bits + 1, base, acc, n =>
    let acc := if n % 2 = 1 then mul acc base else acc
    if n / 2 = 0 then acc else selectSquares bits (mul base base) acc (n / 2)

/-- Number one. -/
def one : Binary64 := ofNat 1

/-- A number to an integer power of at most 32 bits. -/
def power (base : Binary64) (n : Int) : Binary64 :=
  let positive := selectSquares 32 base one n.natAbs
  if n < 0 then div one positive else positive

end StoryEngine.Binary64

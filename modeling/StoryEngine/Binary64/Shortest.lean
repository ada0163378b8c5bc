import StoryEngine.Binary64.Basic

/-!
# Shortest decimal text of a number

Among the decimal numbers that read back as a given number, `shortest` takes those on the coarsest
grid of powers of ten, and of these the nearest, an even one between two. `Layout` says how its
digits are set out.
-/

namespace StoryEngine.Binary64

/-- Compares `m * 10 ^ p` with `n * 2 ^ q`. -/
def compareScaled (m : Nat) (p : Int) (n : Nat) (q : Int) : Ordering :=
  compare (m * Nat.pow 10 p.toNat * Nat.pow 2 (-q).toNat)
    (n * Nat.pow 2 q.toNat * Nat.pow 10 (-p).toNat)

/-- The numbers, in quarters of the last place, that round to a given significand. -/
structure Interval where
  below : Nat
  above : Nat
  closed : Bool

/-- What rounds to `significand * 2 ^ exponent`; the lower neighbour of a power of two is nearer. -/
def roundingInterval (significand : Nat) (exponent : Int) : Interval where
  below :=
    if significand = Nat.pow 2 (precision - 1) ∧ minExponent < exponent then 4 * significand - 1
    else 4 * significand - 2
  above := 4 * significand + 2
  closed := significand % 2 = 0

/-- Whether `m * 10 ^ p` lies in an interval of quarters of `2 ^ exponent`. -/
def Interval.holds (interval : Interval) (exponent : Int) (m : Nat) (p : Int) : Bool :=
  let low := compareScaled m p interval.below (exponent - 2)
  let high := compareScaled m p interval.above (exponent - 2)
  (low = .gt || (interval.closed && low = .eq)) && (high = .lt || (interval.closed && high = .eq))

/-- The point at or below `significand * 2 ^ exponent` on the grid of multiples of `10 ^ p`. -/
def gridFloor (significand : Nat) (exponent p : Int) : Nat :=
  (significand * Nat.pow 2 exponent.toNat * Nat.pow 10 (-p).toNat) /
    (Nat.pow 2 (-exponent).toNat * Nat.pow 10 p.toNat)

/-- Whether the point above the number on a grid is preferred to the point below: it is nearer, or
as near and even. -/
def prefersUpper (significand : Nat) (exponent : Int) (down : Nat) (p : Int) : Bool :=
  match compareScaled (2 * down + 1) p (2 * significand) exponent with
  | .lt => true
  | .eq => down % 2 = 1
  | .gt => false

/-- The point of a grid that stands for the number, if one reads back as it. -/
def gridPoint? (significand : Nat) (exponent p : Int) : Option Nat :=
  let interval := roundingInterval significand exponent
  let down := gridFloor significand exponent p
  let downReads := 0 < down && interval.holds exponent down p
  let upReads := interval.holds exponent (down + 1) p
  if downReads && upReads then
    some (if prefersUpper significand exponent down p then down + 1 else down)
  else if downReads then some down
  else if upReads then some (down + 1)
  else none

/-- Digits and power of ten of the shortest decimal number, searching `steps` grids from `10 ^ p`
down before the exact value is taken. -/
def shortestFrom (significand : Nat) (exponent : Int) : Nat → Int → Nat × Int
  | 0, _ =>
    (significand * Nat.pow 2 exponent.toNat * Nat.pow 5 (-exponent).toNat, min exponent 0)
  | steps + 1, p =>
    match gridPoint? significand exponent p with
    | some digits => (digits, p)
    | none => shortestFrom significand exponent steps (p - 1)

/-- A power of ten above the number, so that no coarser grid has a point that reads back as it. -/
def coarsestPower (significand : Nat) (exponent : Int) : Int :=
  (significand.log2 + exponent) * 30103 / 100000 + 2

/-- Digits and power of ten of the shortest decimal number that reads back as a positive number. -/
def shortest (significand : Nat) (exponent : Int) : Nat × Int :=
  shortestFrom significand exponent 1100 (coarsestPower significand exponent)

/-- How a decimal number is set out: positional for powers of ten of its first digit from `least` to
`greatest`, with an exponent elsewhere. -/
structure Layout where
  least : Int
  greatest : Int
  point : Char
  exponentMark : Char
  /-- The fraction of a whole number in positional form. -/
  wholeFraction : List Char

/-- Digits of a number in base ten. -/
def decimalDigits (n : Nat) : List Char :=
  Nat.toDigits 10 n

/-- The text of `digits * 10 ^ p`. -/
def Layout.render (layout : Layout) (digits : Nat) (p : Int) : List Char :=
  let ds := decimalDigits digits
  let first := p + ds.length - 1
  if layout.least ≤ first ∧ first ≤ layout.greatest then
    if 0 ≤ p then
      ds ++ List.replicate p.toNat '0' ++ layout.point :: layout.wholeFraction
    else if 0 ≤ first then
      ds.take (first.toNat + 1) ++ layout.point :: ds.drop (first.toNat + 1)
    else
      '0' :: layout.point :: List.replicate ((-first).toNat - 1) '0' ++ ds
  else
    let fraction := if ds.length = 1 then [] else layout.point :: ds.drop 1
    let sign := if first < 0 then '-' else '+'
    ds.take 1 ++ fraction ++ layout.exponentMark :: sign :: decimalDigits first.natAbs

end StoryEngine.Binary64

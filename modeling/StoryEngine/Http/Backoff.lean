import StoryEngine.Binary64.Arithmetic

/-!
# Backoff between attempts

The delay after a failed attempt grows by a factor with every attempt, up to a bound. It is computed
in double precision and cut off to whole milliseconds.
-/

namespace StoryEngine.Http

/-- How long to wait between attempts; delays are in microseconds. -/
structure RetryPolicy where
  initialDelay : Nat
  multiplier : Binary64
  maxDelay : Nat
  deriving DecidableEq, Repr

namespace RetryPolicy

/-- A tenth of a second at first, twice as long after each attempt, two seconds at most. -/
def standard : RetryPolicy where
  initialDelay := 100000
  multiplier := .ofNat 2
  maxDelay := 2000000

/-- Attempts follow each other without a wait. -/
def immediate : RetryPolicy where
  initialDelay := 0
  multiplier := .ofNat 1
  maxDelay := 0

/-- A delay in whole milliseconds. -/
def wholeMillis (micros : Nat) : Nat :=
  micros / 1000

/-- The power of the factor after an attempt, counted from one, as a signed 32-bit word. -/
def exponentFor (attempt : UInt32) : Int :=
  Int.bmod ((attempt.toNat - 1 : Nat) : Int) UInt32.size

/-- The delay after an attempt, counted from one, in milliseconds. -/
def delayFor (policy : RetryPolicy) (attempt : UInt32) : Nat :=
  let grown := (Binary64.ofNat (wholeMillis policy.initialDelay)).mul
    (policy.multiplier.power (exponentFor attempt))
  (grown.lesser (.ofNat (wholeMillis policy.maxDelay))).toNatUpTo (UInt64.size - 1)

end RetryPolicy

end StoryEngine.Http

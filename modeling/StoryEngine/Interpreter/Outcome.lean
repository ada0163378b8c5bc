import StoryEngine.Json.Basic

/-!
# Outcomes of lines

What a line that was executed tells the lines around it: to go on with its data, to leave the
innermost loop, or to leave the story with a value.
-/

namespace StoryEngine

/-- The result of executing one line. -/
inductive Outcome where
  /-- Go on; the line may have produced data. -/
  | data (value : Option Json)
  /-- Leave the innermost loop. -/
  | breakOut
  /-- Leave every block of the story. -/
  | returned (value : Option Json)
  deriving DecidableEq, Repr

namespace Outcome

/-- Go on, with no data. -/
def nothing : Outcome :=
  data none

/-- Whether the outcome leaves the block around it. -/
def isSentinel : Outcome → Bool
  | data _ => false
  | breakOut | returned _ => true

/-- Whether the outcome lets the block go on. -/
def isData (outcome : Outcome) : Bool :=
  !outcome.isSentinel

/-- The value that the outcome carries. -/
def value? : Outcome → Option Json
  | data value | returned value => value
  | breakOut => none

end Outcome

end StoryEngine

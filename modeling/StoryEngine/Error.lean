/-!
# Errors of the engine

What can go wrong in loading, starting, running and ending an application. Each kind has a heading
and carries a detail, which the part that failed has put into words.
-/

namespace StoryEngine

/-- An error by its kind, with a detail. -/
inductive EngineError where
  | storyNotFound (detail : String)
  | lineNotFound (detail : String)
  | validation (detail : String)
  | resolution (detail : String)
  | containerStart (detail : String)
  | storyExecution (detail : String)
  | subscriptionNotFound (detail : String)
  | httpTransport (detail : String)
  | configuration (detail : String)
  | serialization (detail : String)
  | inputOutput (detail : String)
  | other (detail : String)
  deriving DecidableEq, Repr

namespace EngineError

/-- The error in words: the heading of its kind and the detail. -/
def message : EngineError → String
  | storyNotFound detail => s!"Story not found: {detail}"
  | lineNotFound detail => s!"Line not found: {detail}"
  | validation detail => s!"Validation error: {detail}"
  | resolution detail => s!"Resolution error: {detail}"
  | containerStart detail => s!"Container start error: {detail}"
  | storyExecution detail => s!"Story execution error: {detail}"
  | subscriptionNotFound detail => s!"Subscription not found: {detail}"
  | httpTransport detail => s!"HTTP transport error: {detail}"
  | configuration detail => s!"Configuration error: {detail}"
  | serialization detail => s!"Serialization error: {detail}"
  | inputOutput detail => s!"Input/output error: {detail}"
  | other detail => detail

end EngineError

end StoryEngine

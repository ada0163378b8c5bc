import StoryEngine.Act
import StoryEngine.Error
import StoryEngine.Logging.Record

/-!
# Logging of results

Records that tell on the way whether something succeeded; the result itself passes unchanged.
-/

namespace StoryEngine.LogResult

variable {σ α : Type}

/-- Logs the error of a failure under a message. -/
def onError (message : String) (result : Except EngineError α) :
    Act LogRecord σ (Except EngineError α) := do
  match result with
  | .ok _ => pure result
  | .error error =>
    Act.emit { level := .error, message := message, fields := [("error", .text error.message)] }
    pure result

/-- Logs a message for a success. -/
def onSuccess (message : String) (result : Except EngineError α) :
    Act LogRecord σ (Except EngineError α) := do
  match result with
  | .ok _ =>
    Act.emit { level := .info, message := message }
    pure result
  | .error _ => pure result

end StoryEngine.LogResult

/-!
# Log records

What the engine logs: a message with its severity, and fields that name what it is about.
-/

namespace StoryEngine

/-- Severity of a log record. -/
inductive LogLevel where
  | info
  | warn
  | error
  deriving DecidableEq, Repr

/-- Value of a field of a log record. -/
inductive LogValue where
  | text (value : String)
  | number (value : Nat)
  deriving DecidableEq, Repr

/-- A log record with its fields. -/
structure LogRecord where
  level : LogLevel
  message : String
  fields : List (String × LogValue) := []
  deriving DecidableEq, Repr

end StoryEngine

import StoryEngine.Http.Message
import StoryEngine.Logging.Record

/-!
# Events of an HTTP client

What a client does with a request that it was given: attempts to send it, waits, and log records.
-/

namespace StoryEngine.Http

/-- Something that happened within an HTTP client. -/
inductive Event where
  /-- A request was given to the transport, once. -/
  | sent (request : Request)
  /-- The client set a timer to some milliseconds and waited for it. -/
  | waited (milliseconds : Nat)
  /-- A record was logged. -/
  | logged (record : LogRecord)
  deriving DecidableEq, Repr

namespace Event

/-- The requests given to the transport. -/
def sends (events : List Event) : List Request :=
  events.filterMap fun
    | sent request => some request
    | _ => none

/-- The waits, in the milliseconds to which their timers were set. -/
def waits (events : List Event) : List Nat :=
  events.filterMap fun
    | waited milliseconds => some milliseconds
    | _ => none

/-- The log records. -/
def logs (events : List Event) : List LogRecord :=
  events.filterMap fun
    | logged record => some record
    | _ => none

@[simp] theorem sends_append (a b : List Event) : sends (a ++ b) = sends a ++ sends b :=
  List.filterMap_append

@[simp] theorem waits_append (a b : List Event) : waits (a ++ b) = waits a ++ waits b :=
  List.filterMap_append

@[simp] theorem logs_append (a b : List Event) : logs (a ++ b) = logs a ++ logs b :=
  List.filterMap_append

end Event

end StoryEngine.Http

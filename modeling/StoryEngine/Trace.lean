import StoryEngine.Http.Event

/-!
# Traces

What can be seen of a run from outside: lines dispatched, containers started, requests made and
records logged, in the order in which they happened.
-/

namespace StoryEngine

/-- A container start: the line that asks for it and what it names. -/
structure StartCall where
  story : String
  line : String
  service : String
  command : String
  deriving DecidableEq, Repr

/-- Something that happened in a run. -/
inductive Event where
  /-- A line was handed to the dispatcher. -/
  | dispatched (story line : String)
  /-- A container start began. -/
  | startBegan (call : StartCall)
  /-- A container start finished, with its error if it failed. -/
  | startEnded (call : StartCall) (failure : Option EngineError)
  /-- A request was given to the HTTP client, with its budget of attempts. -/
  | fetched (budget : UInt32) (request : Http.Request)
  /-- Something happened within the HTTP client. -/
  | http (event : Http.Event)
  /-- A record was logged. -/
  | logged (record : LogRecord)
  deriving DecidableEq, Repr

/-- Events in the order in which they happened. -/
abbrev Trace := List Event

namespace Trace

/-- Story and line of every dispatch. -/
def dispatches (trace : Trace) : List (String × String) :=
  trace.filterMap fun
    | .dispatched story line => some (story, line)
    | _ => none

/-- The container starts that began. -/
def starts (trace : Trace) : List StartCall :=
  trace.filterMap fun
    | .startBegan call => some call
    | _ => none

/-- Requests given to the HTTP client. -/
def fetches (trace : Trace) : List (UInt32 × Http.Request) :=
  trace.filterMap fun
    | .fetched budget request => some (budget, request)
    | _ => none

/-- What happened within the HTTP client. -/
def httpEvents (trace : Trace) : List Http.Event :=
  trace.filterMap fun
    | .http event => some event
    | _ => none

/-- The log records of the engine and of its HTTP client. -/
def logs (trace : Trace) : List LogRecord :=
  trace.filterMap fun
    | .logged record | .http (.logged record) => some record
    | _ => none

/-- What is read off no event of a kind is not found among events of this kind. -/
theorem filterMap_map_eq_nil {α β : Type} {event : α → Event} {read : Event → Option β}
    (hread : ∀ item, read (event item) = none) (items : List α) :
    (items.map event).filterMap read = [] := by
  rw [List.filterMap_map, List.filterMap_eq_nil_iff]
  exact fun item _ => hread item

@[simp] theorem dispatches_append (a b : Trace) :
    dispatches (a ++ b) = dispatches a ++ dispatches b :=
  List.filterMap_append

@[simp] theorem starts_append (a b : Trace) : starts (a ++ b) = starts a ++ starts b :=
  List.filterMap_append

@[simp] theorem mem_starts {trace : Trace} {call : StartCall} :
    call ∈ starts trace ↔ .startBegan call ∈ trace := by
  rw [starts, List.mem_filterMap]
  constructor
  · rintro ⟨event, hevent, hcall⟩
    cases event with
    | startBegan _ =>
      cases hcall
      exact hevent
    | _ => cases hcall
  · intro hbegan
    exact ⟨_, hbegan, rfl⟩

@[simp] theorem fetches_append (a b : Trace) : fetches (a ++ b) = fetches a ++ fetches b :=
  List.filterMap_append

@[simp] theorem httpEvents_append (a b : Trace) :
    httpEvents (a ++ b) = httpEvents a ++ httpEvents b :=
  List.filterMap_append

@[simp] theorem logs_append (a b : Trace) : logs (a ++ b) = logs a ++ logs b :=
  List.filterMap_append

/-- How many container starts are in flight after an event. -/
def inFlightAfter (inFlight : Nat) : Event → Nat
  | .startBegan _ => inFlight + 1
  | .startEnded _ _ => inFlight - 1
  | _ => inFlight

/-- Container starts in flight at the end. -/
def inFlight (trace : Trace) : Nat :=
  trace.foldl inFlightAfter 0

/-- The most container starts in flight at once, from a given number on. -/
def peakFrom (now : Nat) : Trace → Nat
  | [] => now
  | event :: rest => max now (peakFrom (inFlightAfter now event) rest)

/-- The most container starts in flight at once. -/
def peakInFlight (trace : Trace) : Nat :=
  peakFrom 0 trace

end Trace

end StoryEngine

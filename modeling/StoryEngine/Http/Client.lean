import StoryEngine.Act
import StoryEngine.Http.Backoff
import StoryEngine.Http.Event

/-!
# HTTP clients

A transport sends a request once. A client that retries sends it until there is a response, an error
other than of the transport, or no attempt left of its budget. Any response ends the attempts,
whatever its status.
-/

namespace StoryEngine.Http

/-- A response, or why there is none. -/
abbrev Reply := Except EngineError Response

/-- Sends a request once, and goes on in a new state. -/
abbrev Transport (τ : Type) := Request → τ → Reply × τ

/-- Sends a request with a budget of attempts. -/
abbrev Client (η : Type) := UInt32 → Request → Act Event η Reply

variable {τ : Type}

/-- A transport that refuses methods that are not tokens. -/
def Transport.checked (transport : Transport τ) : Transport τ := fun request s =>
  if isToken request.method then
    transport request s
  else
    (.error (.validation s!"Invalid HTTP method: {request.method}"), s)

/-- The record of an attempt that failed and is followed by another one. -/
def attemptFailed (request : Request) (attempt budget : UInt32) (delay : Nat) (detail : String) :
    LogRecord where
  level := .warn
  message := "HTTP attempt failed, retrying"
  fields := [
    ("request", .text request.display),
    ("attempt", .number attempt.toNat),
    ("max_attempts", .number budget.toNat),
    ("delay_ms", .number delay),
    ("error", .text detail)]

/-- The record of a last attempt that failed. -/
def attemptsExhausted (request : Request) (attempts : UInt32) (detail : String) : LogRecord where
  level := .error
  message := "HTTP retries exhausted"
  fields := [
    ("request", .text request.display),
    ("attempts", .number attempts.toNat),
    ("error", .text detail)]

/-- The error of a request whose attempts all failed. -/
def exhausted (request : Request) (attempts : UInt32) (detail : String) : EngineError :=
  .httpTransport s!"{request.display} failed after {attempts.toNat} attempts: {detail}"

/-- Sends a request once. -/
def sendOnce (transport : Transport τ) (request : Request) : Act Event τ Reply := do
  Act.emit (.sent request)
  Act.silent (transport request)

/-- Makes attempt number `attempt` of a budget, and up to `left` more if it fails. -/
def attemptFrom (policy : RetryPolicy) (transport : Transport τ) (request : Request)
    (budget : UInt32) : Nat → UInt32 → Act Event τ Reply
  | left, attempt => do
    match ← sendOnce transport request with
    | .error (.httpTransport detail) =>
      match left with
      | left + 1 =>
        let delay := policy.delayFor attempt
        Act.emit (.logged (attemptFailed request attempt budget delay detail))
        Act.emit (.waited delay)
        attemptFrom policy transport request budget left (attempt + 1)
      | 0 =>
        Act.emit (.logged (attemptsExhausted request attempt detail))
        pure (.error (exhausted request attempt detail))
    | reply => pure reply

/-- The attempts that a budget allows: at least one. -/
def allowedAttempts (budget : UInt32) : UInt32 :=
  max budget 1

/-- The client that retries what a transport fails to send. -/
def retrying (policy : RetryPolicy) (transport : Transport τ) : Client τ := fun budget request =>
  let allowed := allowedAttempts budget
  attemptFrom policy transport request allowed (allowed.toNat - 1) 1

end StoryEngine.Http

import StoryEngine.App.Config
import StoryEngine.App.State
import StoryEngine.Catalog.Resolution
import StoryEngine.Http.Client
import StoryEngine.Subscription.Registry
import StoryEngine.Trace

/-!
# Ending subscriptions

When an application ends, the broker is asked to drop its subscriptions, and each service is asked
to drop its own. Nothing here fails: what goes wrong is logged and counted, and the rest is still
done.
-/

namespace StoryEngine

/-- Counts of an attempt to end every subscription. -/
structure UnsubscribeReport where
  /-- Subscriptions that a call was due for. -/
  attempted : Nat := 0
  /-- Calls answered with success. -/
  succeeded : Nat := 0
  /-- Calls not answered with success, and calls that could not be made. -/
  failed : Nat := 0
  /-- Subscriptions that need no call. -/
  skipped : Nat := 0
  deriving DecidableEq, Repr

/-- What came of a teardown. -/
structure TeardownReport where
  /-- Whether the broker dropped all subscriptions. -/
  clearedAll : Bool
  unsubscribe : UnsubscribeReport
  deriving DecidableEq, Repr

/-- What came of ending one subscription. -/
inductive Handling where
  | skipped
  | succeeded
  | failed
  deriving DecidableEq, Repr

namespace UnsubscribeReport

/-- The counts of what came of each subscription. -/
def ofHandlings (handlings : List Handling) : UnsubscribeReport where
  attempted := handlings.countP (· ≠ .skipped)
  succeeded := handlings.count .succeeded
  failed := handlings.count .failed
  skipped := handlings.count .skipped

end UnsubscribeReport

namespace Teardown

variable {η : Type}

/-- Logs a failure: what failed, what it is about, and its cause. -/
def logFailure (message : String) (subject : List (String × LogValue))
    (cause : String × LogValue) : Act Event η Unit :=
  Act.emit (.logged { level := .error, message := message, fields := subject ++ [cause] })

/-- An error as the cause of a failure. -/
def errorCause (error : EngineError) : String × LogValue :=
  ("error", .text error.message)

/-- The status of a response as the cause of a failure. -/
def statusCause (response : Http.Response) : String × LogValue :=
  ("status", .number response.status.toNat)

/-- Gives a request to the client. -/
def fetch (client : Http.Client η) (budget : UInt32) (request : Http.Request) :
    Act Event η Http.Reply := do
  Act.emit (.fetched budget request)
  (client budget request).relabel .http

/-- Gives a request to the client, logs it if it is not answered with success, and tells whether it
is. -/
def fetchLogged (client : Http.Client η) (budget : UInt32) (request : Http.Request)
    (message : String) (subject : List (String × LogValue)) : Act Event η Bool := do
  match ← fetch client budget request with
  | .ok response =>
    if response.isSuccess then
      pure true
    else
      logFailure message subject (statusCause response)
      pure false
  | .error error =>
    logFailure message subject (errorCause error)
    pure false

/-- Asks the broker to drop every subscription of an application, and tells whether it did. -/
def clearAll (client : Http.Client η) (config : AppConfig) (appId : String) : Act Event η Bool := do
  let subject := [("app_id", LogValue.text appId)]
  match Http.Request.json "POST" config.clearAllUrl (.obj [("app_id", .str appId)]) with
  | .error error =>
    logFailure "Failed to build clear-all request" subject (errorCause error)
    pure false
  | .ok request =>
    fetchLogged client config.httpMaxAttempts request "Failed to unsubscribe all with broker"
      subject

/-- The request that ends a subscription; none where no call is needed. -/
def unsubscribeRequest (catalog : Catalog) (subscription : Subscription) :
    Option (Except EngineError Http.Request) :=
  let service := subscription.service
  (catalog.unsubscribeTarget? service.name service.command subscription.event).map fun target =>
    Http.Request.json target.method
      s!"http://{service.hostname}:{target.port.toNat}{target.path}" subscription.unsubscribeBody

/-- Ends one subscription. -/
def unsubscribe (client : Http.Client η) (config : AppConfig) (catalog : Catalog)
    (subscription : Subscription) : Act Event η Handling := do
  let subject :=
    [("subscription_id", LogValue.text subscription.id),
      ("service", .text subscription.service.name)]
  match unsubscribeRequest catalog subscription with
  | none => pure .skipped
  | some (.error error) =>
    logFailure "Failed to build unsubscribe request" subject (errorCause error)
    pure .failed
  | some (.ok request) =>
    if ← fetchLogged client config.httpMaxAttempts request "Failed to unsubscribe" subject then
      pure .succeeded
    else
      pure .failed

/-- Ends subscriptions one after another. -/
def unsubscribeEach (client : Http.Client η) (config : AppConfig) (catalog : Catalog) :
    List Subscription → Act Event η (List Handling)
  | [] => pure []
  | subscription :: rest => do
    let handling ← unsubscribe client config catalog subscription
    let handlings ← unsubscribeEach client config catalog rest
    pure (handling :: handlings)

/-- Ends subscriptions one after another and counts what came of them. -/
def unsubscribeAll (client : Http.Client η) (config : AppConfig) (catalog : Catalog)
    (subscriptions : List Subscription) : Act Event η UnsubscribeReport :=
  UnsubscribeReport.ofHandlings <$> unsubscribeEach client config catalog subscriptions

end Teardown

end StoryEngine

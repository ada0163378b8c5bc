import StoryEngine.Catalog.Basic
import StoryEngine.Error
import StoryEngine.Story.Line
import StoryEngine.Text.Case

/-!
# Resolution against the catalog

The service and command that an `execute` line names, and the call that ends a subscription. A line
resolves if its command is internal or an action of the catalog.
-/

namespace StoryEngine

/-- A command of a service that a line invokes. -/
structure Chain where
  service : String
  command : String
  deriving DecidableEq, Repr

/-- The chain as it is shown. -/
def Chain.display (chain : Chain) : String :=
  s!"{chain.service}.{chain.command}"

/-- Why a line does not resolve. -/
inductive ResolutionFault where
  | notExecute (method : Method)
  | noService
  | noCommand (service : String)
  | unknownService (service : String)
  | unknownCommand (service command : String)
  deriving DecidableEq, Repr

namespace ResolutionFault

/-- The fault in words, for a line of a story. -/
def message (story line : String) : ResolutionFault → String
  | notExecute method => s!"line {line} of {story} is a {method.name} line, not execute"
  | noService => s!"line {line} of {story} names no service"
  | noCommand service => s!"line {line} of {story} names no command for {service}"
  | unknownService service => s!"line {line} of {story}: service {service} is not defined"
  | unknownCommand service command =>
    s!"line {line} of {story}: command {service}.{command} is not defined"

end ResolutionFault

namespace Catalog

/-- Whether a command is internal or an action of the catalog. -/
def knows (catalog : Catalog) (service command : String) : Bool :=
  catalog.isInternal service command || (catalog.action? service command).isSome

/-- The chain of a line, or the reason why it has none. -/
def chainOf (catalog : Catalog) (line : Line) : Except ResolutionFault Chain :=
  if line.method ≠ .execute then
    .error (.notExecute line.method)
  else match line.service, line.command with
    | none, _ => .error .noService
    | some service, none => .error (.noCommand service)
    | some service, some command =>
      if catalog.knows service command then .ok ⟨service, command⟩
      else if catalog.mentions service then .error (.unknownCommand service command)
      else .error (.unknownService service)

/-- The chain of a line of a story. -/
def resolve (catalog : Catalog) (story : String) (line : Line) : Except EngineError Chain :=
  (catalog.chainOf line).mapError fun fault => .resolution (fault.message story line.ln)

/-- The port of an endpoint for which the catalog gives none. -/
def defaultPort : UInt16 := 80

/-- The method of an unsubscribe call for which the catalog gives none. -/
def defaultUnsubscribeMethod : String := "POST"

/-- The call that ends a subscription to an event, or none where no call is needed. -/
def unsubscribeTarget? (catalog : Catalog) (service command event : String) :
    Option UnsubscribeTarget := do
  let http ← catalog.eventHttp? service command event
  let endpoint ← http.unsubscribe
  pure {
    method := Text.uppercase (endpoint.method.getD defaultUnsubscribeMethod)
    port := (endpoint.port <|> http.port).getD defaultPort
    path := endpoint.path }

end Catalog

end StoryEngine

import StoryEngine.Json.Record

/-!
# The service catalog

Services, their commands, and the events that a streaming command can emit, with the endpoints for
subscribing to them. Beside the catalog stands the list of commands that the engine carries out
itself.
-/

namespace StoryEngine

/-- An HTTP endpoint of a service container. -/
structure Endpoint where
  method : Option String := none
  /-- A port in place of that of the event. -/
  port : Option UInt16 := none
  path : String
  deriving DecidableEq, Repr

/-- How to subscribe to an event over HTTP. -/
structure EventHttp where
  port : Option UInt16 := none
  subscribe : Option Endpoint := none
  unsubscribe : Option Endpoint := none
  deriving DecidableEq, Repr

/-- An event of a streaming command. -/
structure EventConfig where
  http : Option EventHttp := none
  deriving DecidableEq, Repr

/-- A command of a service. -/
structure ActionConfig where
  events : Table EventConfig := ∅
  /-- A run block of its own; a command with one gets its own container. -/
  runBlock : Option Json := none
  deriving DecidableEq

/-- The configuration of a service. -/
structure ServiceConfig where
  actions : Table ActionConfig := ∅
  deriving DecidableEq

/-- A service of the catalog. -/
structure ServiceDefinition where
  config : ServiceConfig := {}
  deriving DecidableEq

/-- The catalog, with the commands that the engine carries out itself. -/
structure Catalog where
  services : Table ServiceDefinition := ∅
  internal : List (String × String) := []
  deriving DecidableEq

/-- Where and how to unsubscribe from an event. -/
structure UnsubscribeTarget where
  method : String
  port : UInt16
  path : String
  deriving DecidableEq, Repr

namespace Catalog

/-- Adds a command that the engine carries out itself. -/
def registerInternal (catalog : Catalog) (service command : String) : Catalog where
  services := catalog.services
  internal := (service, command) :: catalog.internal

/-- The definition of a service. -/
def service? (catalog : Catalog) (name : String) : Option ServiceDefinition :=
  catalog.services[name]?

/-- The configuration of a command. -/
def action? (catalog : Catalog) (service command : String) : Option ActionConfig := do
  let definition ← catalog.service? service
  definition.config.actions[command]?

/-- Whether the engine carries out a command itself. -/
def isInternal (catalog : Catalog) (service command : String) : Bool :=
  (service, command) ∈ catalog.internal

/-- Whether the catalog or the list of internal commands mentions a service. -/
def mentions (catalog : Catalog) (service : String) : Bool :=
  catalog.services.contains service || catalog.internal.any fun entry => entry.1 = service

/-- Whether all uses of a command can share one container: it has no run block of its own. -/
def isReusable (catalog : Catalog) (service command : String) : Bool :=
  match catalog.action? service command with
  | some action => action.runBlock.isNone
  | none => false

/-- How to subscribe to an event, if the catalog says so. -/
def eventHttp? (catalog : Catalog) (service command event : String) : Option EventHttp := do
  let action ← catalog.action? service command
  let config ← action.events[event]?
  config.http

end Catalog

end StoryEngine

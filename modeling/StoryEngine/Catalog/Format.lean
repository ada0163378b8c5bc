import StoryEngine.Catalog.Basic

/-!
# The JSON form of the catalog

Readers and writers for the parts of the catalog. Every field but the path of an endpoint may be
left out.
-/

namespace StoryEngine

/-- A port, or null. -/
def portToJson : Option UInt16 → Json
  | some port => .nat port.toNat
  | none => .null

namespace Endpoint

/-- Reads an endpoint. -/
def ofRaw (raw : Json.Raw) : Json.Decoded Endpoint := do
  let fields ← raw.record ["method", "port", "path"]
  let method ← fields.optional "method" Json.Raw.text
  let port ← fields.optional "port" Json.Raw.word16
  let path ← fields.required "path" Json.Raw.text
  pure { method, port, path }

/-- The endpoint as JSON. -/
def toJson (endpoint : Endpoint) : Json :=
  .obj [
    ("method", .ofText? endpoint.method),
    ("path", .str endpoint.path),
    ("port", portToJson endpoint.port)]

/-- The endpoint as JSON, or null. -/
def toJson? : Option Endpoint → Json
  | some endpoint => endpoint.toJson
  | none => .null

end Endpoint

namespace EventHttp

/-- Reads the HTTP settings of an event. -/
def ofRaw (raw : Json.Raw) : Json.Decoded EventHttp := do
  let fields ← raw.record ["port", "subscribe", "unsubscribe"]
  let port ← fields.optional "port" Json.Raw.word16
  let subscribe ← fields.optional "subscribe" Endpoint.ofRaw
  let unsubscribe ← fields.optional "unsubscribe" Endpoint.ofRaw
  pure { port, subscribe, unsubscribe }

/-- The HTTP settings of an event as JSON. -/
def toJson (http : EventHttp) : Json :=
  .obj [
    ("port", portToJson http.port),
    ("subscribe", Endpoint.toJson? http.subscribe),
    ("unsubscribe", Endpoint.toJson? http.unsubscribe)]

end EventHttp

namespace EventConfig

/-- Reads an event. -/
def ofRaw (raw : Json.Raw) : Json.Decoded EventConfig := do
  let fields ← raw.record ["http"]
  let http ← fields.optional "http" EventHttp.ofRaw
  pure { http }

/-- The event as JSON. -/
def toJson (event : EventConfig) : Json :=
  .obj [("http", match event.http with
    | some http => http.toJson
    | none => .null)]

end EventConfig

namespace ActionConfig

/-- Reads a command. -/
def ofRaw (raw : Json.Raw) : Json.Decoded ActionConfig := do
  let fields ← raw.record ["events", "run"]
  let events ← fields.withDefault "events" ∅ (Json.Raw.table EventConfig.ofRaw)
  let runBlock ← fields.optional "run" Json.Raw.json
  pure { events, runBlock }

/-- The command as JSON. -/
def toJson (action : ActionConfig) : Json :=
  .obj [
    ("events", Json.ofTableWith EventConfig.toJson action.events),
    ("run", action.runBlock.getD .null)]

end ActionConfig

namespace ServiceConfig

/-- Reads the configuration of a service. -/
def ofRaw (raw : Json.Raw) : Json.Decoded ServiceConfig := do
  let fields ← raw.record ["actions"]
  let actions ← fields.withDefault "actions" ∅ (Json.Raw.table ActionConfig.ofRaw)
  pure { actions }

/-- The configuration of a service as JSON. -/
def toJson (config : ServiceConfig) : Json :=
  .obj [("actions", Json.ofTableWith ActionConfig.toJson config.actions)]

end ServiceConfig

namespace ServiceDefinition

/-- Reads a service. -/
def ofRaw (raw : Json.Raw) : Json.Decoded ServiceDefinition := do
  let fields ← raw.record ["config"]
  let config ← fields.withDefault "config" {} ServiceConfig.ofRaw
  pure { config }

/-- The service as JSON. -/
def toJson (service : ServiceDefinition) : Json :=
  .obj [("config", service.config.toJson)]

end ServiceDefinition

namespace Catalog

/-- Reads the services of a catalog. -/
def servicesOfRaw (raw : Json.Raw) : Json.Decoded (Table ServiceDefinition) :=
  raw.table ServiceDefinition.ofRaw

/-- The services of a catalog as JSON. -/
def servicesToJson (services : Table ServiceDefinition) : Json :=
  Json.ofTableWith ServiceDefinition.toJson services

end Catalog

end StoryEngine

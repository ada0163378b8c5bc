import StoryEngine.Subscription.Timestamp

/-!
# Subscriptions

A subscription to an event of a streaming service, with the container that holds it and the payload
that came back when it was made.
-/

namespace StoryEngine

/-- The service instance that holds a subscription. -/
structure StreamingService where
  name : String
  command : String
  containerName : String
  /-- The host on which the container answers. -/
  hostname : String
  deriving DecidableEq, Repr

/-- An active subscription. -/
structure Subscription where
  id : String
  service : StreamingService
  event : String
  /-- Opaque data; its `sub_body` goes back to the service to unsubscribe. -/
  payload : Json
  subscribedAt : Timestamp
  deriving DecidableEq, Repr

namespace StreamingService

/-- Reads a service instance. -/
def ofRaw (raw : Json.Raw) : Json.Decoded StreamingService := do
  let fields ← raw.record ["name", "command", "container_name", "hostname"]
  let name ← fields.required "name" Json.Raw.text
  let command ← fields.required "command" Json.Raw.text
  let containerName ← fields.required "container_name" Json.Raw.text
  let hostname ← fields.required "hostname" Json.Raw.text
  pure { name, command, containerName, hostname }

/-- The service instance as JSON. -/
def toJson (service : StreamingService) : Json :=
  .obj [
    ("command", .str service.command),
    ("container_name", .str service.containerName),
    ("hostname", .str service.hostname),
    ("name", .str service.name)]

end StreamingService

namespace Subscription

/-- What is sent to the service to unsubscribe. -/
def unsubscribeBody (subscription : Subscription) : Json :=
  (subscription.payload.member? "sub_body").getD .null

/-- Reads a subscription. -/
def ofRaw (raw : Json.Raw) : Json.Decoded Subscription := do
  let fields ← raw.record ["id", "streaming_service", "event", "payload", "subscribed_at"]
  let id ← fields.required "id" Json.Raw.text
  let service ← fields.required "streaming_service" StreamingService.ofRaw
  let event ← fields.required "event" Json.Raw.text
  let payload ← fields.required "payload" Json.Raw.json
  let subscribedAt ← fields.required "subscribed_at" Timestamp.ofRaw
  pure { id, service, event, payload, subscribedAt }

/-- The subscription as JSON. -/
def toJson (subscription : Subscription) : Json :=
  .obj [
    ("event", .str subscription.event),
    ("id", .str subscription.id),
    ("payload", subscription.payload),
    ("streaming_service", subscription.service.toJson),
    ("subscribed_at", .str subscription.subscribedAt.toText)]

end Subscription

end StoryEngine

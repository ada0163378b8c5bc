import StoryEngine.CaseMap
import StoryEngine.Catalog.Basic

/-!
# State of an application

What the stories of an application share: its identity, its environment and catalog, and the context
that is derived from them once.
-/

namespace StoryEngine

/-- The read-only context of an application. -/
structure AppContext where
  /-- The flat entries of the environment. -/
  secrets : CaseMap Json
  hostname : String
  version : UInt64
  deriving DecidableEq

namespace AppContext

/-- The entries of a list whose values are not objects. -/
def flat (entries : List (String × Json)) : List (String × Json) :=
  entries.filter fun (_, value) => !value.isObject

/-- Derives the context; the hostname is the name of the application in its domain. -/
def derive (environment : CaseMap Json) (appDns appDomain : String) (version : UInt64) :
    AppContext where
  secrets := .ofList (flat environment.toList)
  hostname := s!"{appDns}.{appDomain}"
  version := version

/-- The context as JSON. -/
def toJson (context : AppContext) : Json :=
  .obj [
    ("hostname", .str context.hostname),
    ("secrets", context.secrets.toJson id),
    ("version", .nat context.version.toNat)]

end AppContext

/-- Identity and shared data of an application. -/
structure AppState where
  appId : String
  appDns : String
  version : UInt64
  ownerUuid : String
  environment : CaseMap Json
  context : AppContext
  catalog : Catalog
  deriving DecidableEq

namespace AppState

/-- The state of an application in a domain. -/
def create (appId appDns : String) (version : UInt64) (ownerUuid : String)
    (environment : CaseMap Json) (catalog : Catalog) (appDomain : String) : AppState where
  appId := appId
  appDns := appDns
  version := version
  ownerUuid := ownerUuid
  environment := environment
  context := .derive environment appDns appDomain version
  catalog := catalog

end AppState

end StoryEngine

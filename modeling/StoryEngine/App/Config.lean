import StoryEngine.Act
import StoryEngine.Json.Record
import StoryEngine.Logging.Record
import StoryEngine.Text.Numeral

/-!
# Settings of an application

Settings have defaults and are overridden by environment variables, each by its own. A variable that
does not hold a number where one is needed leaves the default and a warning.
-/

namespace StoryEngine

/-- Settings of an application. -/
structure AppConfig where
  /-- Host of the subscription broker. -/
  synapseHost : String := "synapse"
  /-- Port of the subscription broker. -/
  synapsePort : UInt16 := 80
  /-- Domain in which the application has its hostname. -/
  appDomain : String := "storyflow.app"
  /-- Budget of attempts for each HTTP call of a teardown. -/
  httpMaxAttempts : UInt32 := 3
  deriving DecidableEq, Repr

namespace AppConfig

/-- The settings without any variable. -/
def defaults : AppConfig := {}

/-- The port that a variable names. -/
def port? (value : String) : Option UInt16 :=
  (Text.readUnsigned? (UInt16.size - 1) value).map .ofNat

/-- The budget of attempts that a variable names, which is not zero. -/
def attempts? (value : String) : Option UInt32 := do
  let n ← Text.readUnsigned? (UInt32.size - 1) value
  if n = 0 then none else pure (.ofNat n)

/-- The settings that some variables give. -/
def ofVariables (lookup : String → Option String) : AppConfig where
  synapseHost := (lookup "SYNAPSE_HOST").getD defaults.synapseHost
  synapsePort := ((lookup "SYNAPSE_PORT").bind port?).getD defaults.synapsePort
  appDomain := (lookup "APP_DOMAIN").getD defaults.appDomain
  httpMaxAttempts := ((lookup "HTTP_MAX_ATTEMPTS").bind attempts?).getD defaults.httpMaxAttempts

/-- The warning about a variable that holds no fitting number. -/
def invalidVariable (name value : String) : LogRecord where
  level := .warn
  message := s!"Invalid {name} value: {value}"

/-- The warning that a variable gives rise to, if it is set and cannot be read. -/
def warning? {α : Type} (lookup : String → Option String) (name : String)
    (read : String → Option α) : Option LogRecord :=
  match lookup name with
  | none => none
  | some value => if (read value).isSome then none else some (invalidVariable name value)

/-- The warnings that some variables give rise to. -/
def warnings (lookup : String → Option String) : List LogRecord :=
  (warning? lookup "SYNAPSE_PORT" port?).toList ++
    (warning? lookup "HTTP_MAX_ATTEMPTS" attempts?).toList

/-- Takes the settings from variables and logs the warnings. -/
def load {σ : Type} (lookup : String → Option String) : Act LogRecord σ AppConfig := fun s =>
  ⟨ofVariables lookup, s, warnings lookup⟩

/-- The URL at which the broker drops all subscriptions of an application. -/
def clearAllUrl (config : AppConfig) : String :=
  s!"http://{config.synapseHost}:{config.synapsePort.toNat}/clear_all"

/-- Reads settings. -/
def ofRaw (raw : Json.Raw) : Json.Decoded AppConfig := do
  let fields ← raw.record ["synapse_host", "synapse_port", "app_domain", "http_max_attempts"]
  let synapseHost ← fields.withDefault "synapse_host" defaults.synapseHost Json.Raw.text
  let synapsePort ← fields.withDefault "synapse_port" defaults.synapsePort Json.Raw.word16
  let appDomain ← fields.withDefault "app_domain" defaults.appDomain Json.Raw.text
  let httpMaxAttempts ←
    fields.withDefault "http_max_attempts" defaults.httpMaxAttempts Json.Raw.word32
  pure { synapseHost, synapsePort, appDomain, httpMaxAttempts }

/-- The settings as JSON. -/
def toJson (config : AppConfig) : Json :=
  .obj [
    ("app_domain", .str config.appDomain),
    ("http_max_attempts", .nat config.httpMaxAttempts.toNat),
    ("synapse_host", .str config.synapseHost),
    ("synapse_port", .nat config.synapsePort.toNat)]

end AppConfig

end StoryEngine

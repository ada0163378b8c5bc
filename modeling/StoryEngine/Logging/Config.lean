import StoryEngine.Act
import StoryEngine.Json.Record
import StoryEngine.Logging.Record
import StoryEngine.Text.Case

/-!
# Settings of the log

Which records are kept and in which format they are written, from defaults and two environment
variables.
-/

namespace StoryEngine

/-- Format of written log records. -/
inductive LogFormat where
  /-- For human readers. -/
  | pretty
  /-- One JSON object for each record. -/
  | json
  deriving DecidableEq, Repr

namespace LogFormat

/-- The name of a format. -/
def name : LogFormat → String
  | pretty => "pretty"
  | json => "json"

/-- The format with a name. -/
def ofName? (name : String) : Option LogFormat :=
  if name = "json" then some json
  else if name = "pretty" then some pretty
  else none

/-- Reads a format: its name, or an object with null under its name. -/
def ofRaw (raw : Json.Raw) : Json.Decoded LogFormat :=
  let named (name : String) : Json.Decoded LogFormat :=
    match ofName? name with
    | some format => .ok format
    | none => .error (.unexpected "a log format")
  match raw.shape with
  | .str name => named name
  | .obj [(name, member)] =>
    match member.shape with
    | .null => named name
    | _ => .error (.unexpected "null")
  | _ => .error (.unexpected "a log format")

end LogFormat

/-- Settings of the log. -/
structure LogConfig where
  /-- Name of the service that writes the log. -/
  serviceName : String := "storyflow"
  /-- Directive that says which records are kept. -/
  logFilter : String := "info"
  format : LogFormat := .pretty
  deriving DecidableEq, Repr

namespace LogConfig

/-- The settings without any variable. -/
def defaults : LogConfig := {}

/-- The format that a variable names, in any case. -/
def format? (value : String) : Option LogFormat :=
  LogFormat.ofName? (Text.lowercase value)

/-- The settings that some variables give. -/
def ofVariables (lookup : String → Option String) : LogConfig where
  logFilter := (lookup "LOG_LEVEL").getD defaults.logFilter
  format := ((lookup "LOG_FORMAT").bind format?).getD defaults.format

/-- The warnings that some variables give rise to. -/
def warnings (lookup : String → Option String) : List LogRecord :=
  match lookup "LOG_FORMAT" with
  | none => []
  | some value =>
    if (format? value).isSome then []
    else [{ level := .warn, message := s!"Invalid LOG_FORMAT value: {value}" }]

/-- Takes the settings from variables and logs the warnings. -/
def load {σ : Type} (lookup : String → Option String) : Act LogRecord σ LogConfig := fun s =>
  ⟨ofVariables lookup, s, warnings lookup⟩

/-- Reads settings. -/
def ofRaw (raw : Json.Raw) : Json.Decoded LogConfig := do
  let fields ← raw.record ["service_name", "log_filter", "format"]
  let serviceName ← fields.withDefault "service_name" defaults.serviceName Json.Raw.text
  let logFilter ← fields.withDefault "log_filter" defaults.logFilter Json.Raw.text
  let format ← fields.withDefault "format" defaults.format LogFormat.ofRaw
  pure { serviceName, logFilter, format }

/-- The settings as JSON. -/
def toJson (config : LogConfig) : Json :=
  .obj [
    ("format", .str config.format.name),
    ("log_filter", .str config.logFilter),
    ("service_name", .str config.serviceName)]

end LogConfig

end StoryEngine

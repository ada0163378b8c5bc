import StoryEngine.Json.Record

/-!
# Lines of a story

One step of a story: its method, what it names, and the pointers to the lines around it. A line with
a nested block points to the first line of the block and to the line after it.
-/

namespace StoryEngine

/-- What a line does. -/
inductive Method where
  | execute
  | set
  | ifBlock
  | elifBlock
  | elseBlock
  | forLoop
  | whileLoop
  | runStory
  | whenEvent
  | function
  | call
  | returnValue
  | breakLoop
  | other (name : String)
  deriving DecidableEq, Repr

namespace Method

/-- The name of a method in a story. -/
def name : Method → String
  | execute => "execute"
  | set => "set"
  | ifBlock => "if"
  | elifBlock => "elif"
  | elseBlock => "else"
  | forLoop => "for"
  | whileLoop => "while"
  | runStory => "run"
  | whenEvent => "when"
  | function => "function"
  | call => "call"
  | returnValue => "return"
  | breakLoop => "break"
  | other name => name

/-- The methods that have a name of their own. -/
def known : List Method :=
  [execute, set, ifBlock, elifBlock, elseBlock, forLoop, whileLoop, runStory, whenEvent, function,
    call, returnValue, breakLoop]

/-- The method of a name. -/
def ofName (name : String) : Method :=
  (known.find? fun method => method.name = name).getD (other name)

/-- Reads a method. -/
def ofRaw (raw : Json.Raw) : Json.Decoded Method :=
  raw.text.map ofName

end Method

/-- One step of a story. -/
structure Line where
  /-- Id of the line within its story. -/
  ln : String
  method : Method
  /-- The next line in source order. -/
  next : Option String := none
  /-- The first line of the nested block. -/
  enter : Option String := none
  /-- The first line after the nested block. -/
  exit : Option String := none
  /-- The line whose block this line belongs to. -/
  parent : Option String := none
  service : Option String := none
  command : Option String := none
  /-- Names that the line binds. -/
  output : Option (List String) := none
  args : Json := .null
  deriving DecidableEq, Repr

namespace Line

/-- Whether the line has a nested block. -/
def isBlockOwner (line : Line) : Bool :=
  line.enter.isSome

/-- The line that comes after this one is done; a block owner skips its block. -/
def successor (line : Line) : Option String :=
  if line.isBlockOwner then line.exit else line.next

/-- The first name that the line binds. -/
def firstOutput (line : Line) : Option String :=
  line.output.bind List.head?

/-- The fields of a line, in order. -/
def fieldNames : List String :=
  ["ln", "method", "next", "enter", "exit", "parent", "service", "command", "output", "args"]

/-- Reads a line. -/
def ofRaw (raw : Json.Raw) : Json.Decoded Line := do
  let fields ← raw.record fieldNames
  let ln ← fields.required "ln" Json.Raw.text
  let method ← fields.required "method" Method.ofRaw
  let next ← fields.optional "next" Json.Raw.text
  let enter ← fields.optional "enter" Json.Raw.text
  let exit ← fields.optional "exit" Json.Raw.text
  let parent ← fields.optional "parent" Json.Raw.text
  let service ← fields.optional "service" Json.Raw.text
  let command ← fields.optional "command" Json.Raw.text
  let output ← fields.optional "output" (Json.Raw.items Json.Raw.text)
  let args ← fields.withDefault "args" .null Json.Raw.json
  pure { ln, method, next, enter, exit, parent, service, command, output, args }

/-- The names of an output, or null. -/
def outputToJson : Option (List String) → Json
  | some names => .arr (names.map .str)
  | none => .null

/-- The line as JSON, with all its fields. -/
def toJson (line : Line) : Json :=
  .obj [
    ("args", line.args),
    ("command", .ofText? line.command),
    ("enter", .ofText? line.enter),
    ("exit", .ofText? line.exit),
    ("ln", .str line.ln),
    ("method", .str line.method.name),
    ("next", .ofText? line.next),
    ("output", outputToJson line.output),
    ("parent", .ofText? line.parent),
    ("service", .ofText? line.service)]

end Line

end StoryEngine

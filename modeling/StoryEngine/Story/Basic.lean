import StoryEngine.App.State
import StoryEngine.Error
import StoryEngine.Story.Definition

/-!
# Stories of an application

A story is a line graph with its name, within an application. The variables that are bound while it
runs are a value of their own, `Scope`, so that two runs of a story share nothing.
-/

namespace StoryEngine

/-- A story of an application. -/
structure Story where
  name : String
  definition : StoryDefinition
  app : AppState
  deriving DecidableEq

/-- The variables of a running story. -/
abbrev Scope := Table Json

namespace Story

/-- Id of the first line. -/
def firstLine (story : Story) : Option String :=
  story.definition.entrypoint

/-- The line with an id. -/
def line (story : Story) (id : String) : Except EngineError Line :=
  match story.definition.line? id with
  | some line => .ok line
  | none => .error (.lineNotFound s!"{id} in story {story.name}")

/-- Whether the container that a line asks for can be shared, as the catalog has it. -/
def isReusableLine (story : Story) (line : Line) : Bool :=
  match line.service, line.command with
  | some service, some command => story.app.catalog.isReusable service command
  | _, _ => false

end Story

end StoryEngine

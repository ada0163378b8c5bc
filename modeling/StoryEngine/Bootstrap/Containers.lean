import StoryEngine.Bootstrap.Launch

/-!
# Scripted containers

Containers that start at once, except those of services that are set to fail.
-/

namespace StoryEngine

/-- Which services fail to start, and which lines may share a container. -/
structure ScriptedContainers where
  failures : Table EngineError := ∅
  isReusable : Story → Line → Bool := Story.isReusableLine

namespace ScriptedContainers

/-- The result of a start for a line. -/
def result (containers : ScriptedContainers) (line : Line) : Except EngineError Unit :=
  match containers.failures[line.service.getD ""]? with
  | some error => .error error
  | none => .ok ()

/-- The runtime of scripted containers, whose starts finish in the order in which they began. -/
def runtime (containers : ScriptedContainers) : ContainerRuntime Unit where
  isReusable := containers.isReusable
  begin := fun _ _ s => s
  finish := fun _ line s => (containers.result line, s)

end ScriptedContainers

end StoryEngine

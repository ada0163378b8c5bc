import StoryEngine.Catalog.Resolution
import StoryEngine.Run
import StoryEngine.Story.Basic

/-!
# The launch plan

Which containers are started for the stories of an application. The plan goes over the `execute`
lines of every story along `next`. Each must resolve; a service that can be shared is started for
the first line that asks for it only, and internal commands need no container.
-/

namespace StoryEngine

/-- A container to start: the line that asks for it, and what it asks for. -/
structure Launch where
  story : Story
  line : Line
  chain : Chain
  deriving DecidableEq

/-- The start that a line asks for. -/
def StartCall.ofLine (story : Story) (line : Line) : StartCall where
  story := story.name
  line := line.ln
  service := line.service.getD ""
  command := line.command.getD ""

namespace Bootstrap

/-- What the plan meets on its way: a line, or the reason why a walk cannot go on. -/
inductive Visit where
  | line (story : Story) (line : Line)
  | stopped (stop : Stop)
  deriving DecidableEq

/-- Why a walk cannot go on, if it did not come to its end; a walk that comes back to a line would
never end. -/
def walkStop? (story : Story) : WalkEnd → Option Stop
  | .finished => none
  | .missing id => some (.failed (.lineNotFound s!"{id} in story {story.name}"))
  | .repeated _ => some .outOfFuel

/-- What the plan meets in one story. -/
def visits (story : Story) : List Visit :=
  let walk := story.definition.nextWalk
  walk.lines.map (.line story) ++ ((walkStop? story walk.stop).map .stopped).toList

/-- Whether a container is needed for a chain. -/
def needsContainer (story : Story) (chain : Chain) : Bool :=
  !story.app.catalog.isInternal chain.service chain.command

/-- The launches for a resolved line, in front of those of the lines after it. -/
def addLaunch (story : Story) (line : Line) (chain : Chain) (later : List Launch) : List Launch :=
  if needsContainer story chain then ⟨story, line, chain⟩ :: later else later

/-- The launches for what is still to be met, where the services in `seen` are taken care of. -/
def planFrom (isReusable : Story → Line → Bool) (seen : List String) :
    List Visit → Except Stop (List Launch)
  | [] => .ok []
  | .stopped stop :: _ => .error stop
  | .line story line :: rest =>
    if line.method ≠ .execute then
      planFrom isReusable seen rest
    else match story.app.catalog.resolve story.name line with
      | .error error => .error (.failed error)
      | .ok chain =>
        if isReusable story line then
          if chain.service ∈ seen then
            planFrom isReusable seen rest
          else
            (planFrom isReusable (chain.service :: seen) rest).map (addLaunch story line chain)
        else
          (planFrom isReusable seen rest).map (addLaunch story line chain)

/-- The launches for some stories, in order. -/
def plan (isReusable : Story → Line → Bool) (stories : List Story) : Except Stop (List Launch) :=
  planFrom isReusable [] (stories.flatMap visits)

end Bootstrap

end StoryEngine

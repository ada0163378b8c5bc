import StoryEngine.Interpreter.Walk

/-!
# Running the entrypoint stories

Stories run one after another, each from its first line and with no variables bound. The first one
that fails ends the sequence.
-/

namespace StoryEngine

/-- What dispatchers share between stories: the registry of the application, and their own state. -/
structure Shared (σ : Type) where
  registry : Registry
  client : σ

namespace Bootstrap

variable {σ α : Type}

/-- A state for a run of a story, with no variables bound. -/
def freshScope (shared : Shared σ) : RunState σ where
  scope := ∅
  registry := shared.registry
  client := shared.client

/-- What a run of a story leaves to the stories after it. -/
def leaveScope (_ : Shared σ) (s : RunState σ) : Shared σ where
  registry := s.registry
  client := s.client

/-- Runs a story by itself. -/
def runAlone (fuel : Nat) (dispatcher : Dispatcher σ) (story : Story) :
    Run (Shared σ) (Option Json) :=
  (Interpreter.runStory fuel dispatcher story).through freshScope leaveScope

/-- The record of a story that failed. -/
def storyFailed (story : Story) (error : EngineError) : LogRecord where
  level := .error
  message := "Failed to bootstrap story"
  fields := [("story", .text story.name), ("error", .text error.message)]

/-- Logs why a story stopped. -/
def logStop (story : Story) : Stop → Act Event σ Unit
  | .failed error => Act.emit (.logged (storyFailed story error))
  | .outOfFuel => pure ()

/-- Runs stories one after another, until one fails. -/
def runStories (fuel : Nat) (dispatcher : Dispatcher σ) : List Story → Run (Shared σ) Unit
  | [] => pure ()
  | story :: rest => ExceptT.mk do
    match ← (runAlone fuel dispatcher story).run with
    | .ok _ => (runStories fuel dispatcher rest).run
    | .error stop =>
      logStop story stop
      pure (.error stop)

end Bootstrap

end StoryEngine

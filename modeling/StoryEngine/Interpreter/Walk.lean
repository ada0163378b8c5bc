import StoryEngine.Interpreter.Outcome
import StoryEngine.Run
import StoryEngine.Story.Basic
import StoryEngine.Subscription.Registry

/-!
# Walking a story

The control flow of a story: which line comes next, and how breaks and returns unwind. What a line
does is left to a dispatcher, which may come back here to run the block of the line.

Walks and loops need not end, so each takes fuel: the number of lines that a walk may dispatch, and
of times that a loop may test its condition. A run that needs more stops with `Stop.outOfFuel`.
-/

namespace StoryEngine

/-- What a dispatcher works on: the variables of the story, the registry of the application, and a
state of its own. -/
structure RunState (σ : Type) where
  scope : Scope
  registry : Registry
  client : σ

/-- Executes one line of a story. -/
abbrev Dispatcher (σ : Type) := Story → Line → Run (RunState σ) Outcome

namespace Scope

/-- Binds a variable. -/
def bind (scope : Scope) (name : String) (value : Json) : Scope :=
  scope.insert name value

/-- The value of a variable. -/
def read (scope : Scope) (name : String) : Option Json :=
  scope[name]?

end Scope

namespace Interpreter

variable {σ γ : Type}

/-- Binds a variable of the running story. -/
def bindVariable (name : String) (value : Json) : Run (RunState σ) Unit :=
  Run.ofAct (Act.modify fun s => { s with scope := Scope.bind s.scope name value })

/-- The value of a variable of the running story. -/
def readVariable (name : String) : Run (RunState σ) (Option Json) :=
  Run.ofAct (return Scope.read (← Act.get).scope name)

/-- Hands a line to the dispatcher. -/
def dispatch (dispatcher : Dispatcher σ) (story : Story) (line : Line) :
    Run (RunState σ) Outcome := do
  Run.emit (.dispatched story.name line.ln)
  dispatcher story line

/-- The record of a break that no loop takes up. -/
def strayBreak (line : Line) : LogRecord where
  level := .warn
  message := "Break outside of a loop ends the story"
  fields := [("line", .text line.ln)]

/-- Walks a story from a line on, along successors, until a line returns or none is left. -/
def walk (dispatcher : Dispatcher σ) (story : Story) :
    Nat → Option String → Run (RunState σ) (Option Json)
  | _, none => pure none
  | 0, some _ => throw .outOfFuel
  | fuel + 1, some id => do
    let line ← Run.ofExcept (story.line id)
    match ← dispatch dispatcher story line with
    | .returned value => pure value
    | .breakOut =>
      Run.log (strayBreak line)
      pure none
    | .data _ => walk dispatcher story fuel line.successor

/-- Runs a story from its first line, and gives the value that it returns. -/
def runStory (fuel : Nat) (dispatcher : Dispatcher σ) (story : Story) :
    Run (RunState σ) (Option Json) :=
  walk dispatcher story fuel story.firstLine

/-- Walks the block of a line from a line on, while lines belong to the block; `last` is the outcome
so far. -/
def walkBlock (dispatcher : Dispatcher σ) (story : Story) (owner : Line) :
    Nat → Outcome → Option String → Run (RunState σ) Outcome
  | _, last, none => pure last
  | 0, _, some _ => throw .outOfFuel
  | fuel + 1, last, some id => do
    let line ← Run.ofExcept (story.line id)
    if line.parent = some owner.ln then
      let outcome ← dispatch dispatcher story line
      if outcome.isSentinel then
        pure outcome
      else
        walkBlock dispatcher story owner fuel outcome line.successor
    else
      pure last

/-- Runs the block of a line once. A break or return ends the block and is the outcome; otherwise
the outcome is that of the last line. -/
def executeBlock (fuel : Nat) (dispatcher : Dispatcher σ) (story : Story) (owner : Line) :
    Run (RunState σ) Outcome :=
  walkBlock dispatcher story owner fuel .nothing owner.enter

/-- Binds an item to the first name that a line binds, if it binds one. -/
def bindItem (owner : Line) (item : Json) : Run (RunState σ) Unit :=
  match owner.firstOutput with
  | some name => bindVariable name item
  | none => pure ()

/-- What a loop makes of the outcome of a pass: go on, or end with an outcome. -/
def loopEnd? : Outcome → Option Outcome
  | .data _ => none
  | .breakOut => some .nothing
  | .returned value => some (.returned value)

/-- Runs the block of a line once for each item. -/
def forEach (fuel : Nat) (dispatcher : Dispatcher σ) (story : Story) (owner : Line) :
    List Json → Run (RunState σ) Outcome
  | [] => pure .nothing
  | item :: items => do
    bindItem owner item
    match loopEnd? (← executeBlock fuel dispatcher story owner) with
    | some outcome => pure outcome
    | none => forEach fuel dispatcher story owner items

/-- A condition of a loop: it may look at the run and fail, and it carries a memory from one
evaluation to the next. -/
abbrev Condition (σ γ : Type) := γ → Run (RunState σ) (Bool × γ)

/-- Runs passes while a condition holds. -/
def passesWhile (pass : Run (RunState σ) Outcome) (condition : Condition σ γ) :
    Nat → γ → Run (RunState σ) Outcome
  | 0, _ => throw .outOfFuel
  | fuel + 1, memory => do
    let (holds, memory) ← condition memory
    if holds then
      match loopEnd? (← pass) with
      | some outcome => pure outcome
      | none => passesWhile pass condition fuel memory
    else
      pure .nothing

/-- Runs the block of a line while a condition holds. -/
def loopWhile (fuel : Nat) (dispatcher : Dispatcher σ) (story : Story) (owner : Line)
    (condition : Condition σ γ) (memory : γ) : Run (RunState σ) Outcome :=
  passesWhile (executeBlock fuel dispatcher story owner) condition fuel memory

end Interpreter

end StoryEngine

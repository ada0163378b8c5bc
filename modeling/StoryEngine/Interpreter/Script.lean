import StoryEngine.Interpreter.Walk

/-!
# Scripted dispatchers

A dispatcher that does for each line what a script says. A line that the script does not mention
runs its block once if it has one, and produces nothing otherwise.
-/

namespace StoryEngine

/-- What a script does for a line. -/
inductive ScriptAction where
  | data (value : Json)
  | breakOut
  | returned (value : Option Json)
  | fail (error : EngineError)
  /-- Run the block of the line once. -/
  | block
  /-- Run the block once for each item. -/
  | forEach (items : List Json)
  /-- Run the block a number of times. -/
  | repeatTimes (times : Nat)
  deriving DecidableEq, Repr

/-- Actions by line id. -/
abbrev Script := Table ScriptAction

namespace Script

variable {σ : Type}

/-- The action for a line, if it has one. -/
def actionFor? (script : Script) (line : Line) : Option ScriptAction :=
  script[line.ln]?.or (if line.isBlockOwner then some .block else none)

/-- A condition that holds a number of times. -/
def countdown : Interpreter.Condition σ Nat
  | 0 => pure (false, 0)
  | times + 1 => pure (true, times)

/-- Performs an action for a line; the lines of its block go to `inner`. -/
def perform (fuel : Nat) (inner : Dispatcher σ) (story : Story) (line : Line) :
    ScriptAction → Run (RunState σ) Outcome
  | .data value => pure (.data (some value))
  | .breakOut => pure .breakOut
  | .returned value => pure (.returned value)
  | .fail error => Run.fail error
  | .block => Interpreter.executeBlock fuel inner story line
  | .forEach items => Interpreter.forEach fuel inner story line items
  | .repeatTimes times => Interpreter.loopWhile fuel inner story line countdown times

/-- The dispatcher of a script. Fuel bounds the nesting of blocks and each walk within them. -/
def dispatcher (script : Script) : Nat → Dispatcher σ
  | 0 => fun _ _ => throw .outOfFuel
  | fuel + 1 => fun story line =>
    match script.actionFor? line with
    | some action => perform fuel (dispatcher script fuel) story line action
    | none => pure .nothing

end Script

end StoryEngine

import StoryEngine.Interpreter.Walk

/-!
# Programmed dispatchers

A dispatcher with a memory. Each line has a queue of actions; every dispatch of the line takes the
first one, and the last one stays. Actions read and change the variables of the story, so that
programs count, test and loop.
-/

namespace StoryEngine

/-- What a program does for a line. -/
inductive ProgramAction where
  /-- Produce nothing. -/
  | nothing
  | breakOut
  /-- Return without a value. -/
  | returnNothing
  /-- Run the block of the line once. -/
  | block
  | data (value : Json)
  | returned (value : Json)
  | fail (error : EngineError)
  /-- Return the value of a variable. -/
  | returnVariable (name : String)
  /-- Produce the value of a variable. -/
  | echo (name : String)
  /-- Bind a variable. -/
  | set (name : String) (value : Json)
  /-- Add one to a variable and produce the sum. -/
  | increment (name : String)
  /-- Run the block once for each item. -/
  | forEach (items : List Json)
  /-- Run the block while a variable is below a bound. -/
  | whileBelow (name : String) (bound : Int)
  /-- Run the block while the next of some conditions holds. -/
  | whileEach (conditions : List (Except EngineError Bool))
  /-- Do the first action if a variable has reached a bound, and the second otherwise. -/
  | ifReached (name : String) (bound : Int) (reached below : ProgramAction)

/-- The queues of actions, by line id. -/
abbrev Program := Table (List ProgramAction)

namespace Program

/-- Takes the next action for a line. The last action of a queue stays in it. -/
def take (program : Program) (line : Line) : ProgramAction × Program :=
  match program[line.ln]? with
  | some (action :: next :: rest) => (action, program.insert line.ln (next :: rest))
  | some [action] => (action, program)
  | some [] => (.nothing, program)
  | none => (if line.isBlockOwner then .block else .nothing, program)

/-- Takes the next action for a line from the queues of the running program. -/
def takeNext (line : Line) : Run (RunState Program) ProgramAction :=
  Run.ofAct do
    let (action, program) := take (← Act.get).client line
    Act.modify fun s => { s with client := program }
    pure action

/-- The integer that a variable holds, or zero. -/
def counter (name : String) : Run (RunState Program) Int := do
  pure (((← Interpreter.readVariable name).bind Json.int64?).getD 0)

/-- A condition that a variable is below a bound. -/
def isBelow (name : String) (bound : Int) : Interpreter.Condition Program Unit := fun _ => do
  pure ((← counter name) < bound, ())

/-- A condition that takes its answers from a list, and no longer holds at the end of it. -/
def nextAnswer : Interpreter.Condition Program (List (Except EngineError Bool))
  | [] => pure (false, [])
  | .ok holds :: rest => pure (holds, rest)
  | .error error :: _ => Run.fail error

/-- Performs an action for a line; the lines of its block go to `inner`. -/
def perform (fuel : Nat) (inner : Dispatcher Program) (story : Story) (line : Line) :
    ProgramAction → Run (RunState Program) Outcome
  | .nothing => pure .nothing
  | .breakOut => pure .breakOut
  | .returnNothing => pure (.returned none)
  | .block => Interpreter.executeBlock fuel inner story line
  | .data value => pure (.data (some value))
  | .returned value => pure (.returned (some value))
  | .fail error => Run.fail error
  | .returnVariable name => return .returned (← Interpreter.readVariable name)
  | .echo name => return .data (← Interpreter.readVariable name)
  | .set name value => do
    Interpreter.bindVariable name value
    pure .nothing
  | .increment name => do
    let sum : Json := .int ((← counter name) + 1)
    Interpreter.bindVariable name sum
    pure (.data (some sum))
  | .forEach items => Interpreter.forEach fuel inner story line items
  | .whileBelow name bound => Interpreter.loopWhile fuel inner story line (isBelow name bound) ()
  | .whileEach conditions => Interpreter.loopWhile fuel inner story line nextAnswer conditions
  | .ifReached name bound reached below => do
    if bound ≤ (← counter name) then
      perform fuel inner story line reached
    else
      perform fuel inner story line below

/-- The dispatcher of a program. Fuel bounds the nesting of blocks and each walk within them. -/
def dispatcher : Nat → Dispatcher Program
  | 0 => fun _ _ => throw .outOfFuel
  | fuel + 1 => fun story line => do
    perform fuel (dispatcher fuel) story line (← takeNext line)

end Program

end StoryEngine

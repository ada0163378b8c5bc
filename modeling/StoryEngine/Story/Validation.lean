import StoryEngine.Error
import StoryEngine.Story.Definition

/-!
# Validation of line graphs

A line graph is sound if every line is filed under its own id, every pointer names a line, the walk
along `next` visits no line twice, and the block pointers of every line on the walk lead to later
lines of it. `validateIn` checks the lines in a given order and reports the first fault.
-/

namespace StoryEngine

/-- What is wrong with a line graph. -/
inductive GraphFault where
  /-- A line is filed under another id. -/
  | misfiled (key ln : String)
  /-- A pointer names no line. -/
  | dangling (line field target : String)
  /-- The first line does not exist. -/
  | noFirstLine (id : String)
  /-- The walk along `next` comes back to a line. -/
  | cycle (id : String)
  /-- A block pointer leads to the line itself or to an earlier one. -/
  | backward (line field target : String)
  /-- A block pointer leads off the walk. -/
  | offWalk (line field target : String)
  deriving DecidableEq, Repr

/-- The fault in words, for a story of this name. -/
def GraphFault.message (story : String) : GraphFault → String
  | misfiled key ln => s!"{story}: line keyed {key} declares id {ln}"
  | dangling line field target =>
    s!"{story}: line {line} has {field} pointing to missing line {target}"
  | noFirstLine id => s!"{story}: first line {id} does not exist"
  | cycle id => s!"{story}: cycle detected in line sequence at line {id}"
  | backward line field target =>
    s!"{story}: line {line} has {field} pointing back to line {target}"
  | offWalk line field target =>
    s!"{story}: line {line} has {field} pointing to line {target} outside the line sequence"

namespace StoryDefinition

/-- Checks that a pointer, if present, names a line. -/
def checkPointer (tree : Table Line) (key field : String) :
    Option String → Except GraphFault Unit
  | none => .ok ()
  | some target => if target ∈ tree then .ok () else .error (.dangling key field target)

/-- Checks that a line is filed under its id and that its pointers name lines. -/
def checkLine (tree : Table Line) (key : String) (line : Line) : Except GraphFault Unit := do
  if key ≠ line.ln then throw (.misfiled key line.ln)
  checkPointer tree key "next" line.next
  checkPointer tree key "enter" line.enter
  checkPointer tree key "exit" line.exit
  checkPointer tree key "parent" line.parent

/-- Checks lines in a given order. -/
def checkLines (tree : Table Line) : List (String × Line) → Except GraphFault Unit
  | [] => .ok ()
  | (key, line) :: rest => do
    checkLine tree key line
    checkLines tree rest

/-- Checks that the first line, if there is one, exists. -/
def checkFirst (definition : StoryDefinition) : Except GraphFault Unit :=
  match definition.entrypoint with
  | none => .ok ()
  | some id => if id ∈ definition.tree then .ok () else .error (.noFirstLine id)

/-- Checks that a walk does not come back to a line. -/
def checkEnd : WalkEnd → Except GraphFault Unit
  | .repeated id => .error (.cycle id)
  | .finished | .missing _ => .ok ()

/-- Checks that a block pointer of a line, if present, leads to one of the later lines. -/
def checkJump (walk later : List String) (id field : String) :
    Option String → Except GraphFault Unit
  | none => .ok ()
  | some target =>
    if target ∈ later then .ok ()
    else if target ∈ walk then .error (.backward id field target)
    else .error (.offWalk id field target)

/-- Checks the block pointers of lines of a walk, each against the lines after it. -/
def checkJumps (walk : List String) : List (String × Line) → Except GraphFault Unit
  | [] => .ok ()
  | (id, line) :: later => do
    checkJump walk (later.map Prod.fst) id "enter" line.enter
    checkJump walk (later.map Prod.fst) id "exit" line.exit
    checkJumps walk later

/-- Checks a line graph, with its lines listed in a given order. -/
def validateIn (definition : StoryDefinition) (order : List (String × Line)) :
    Except GraphFault Unit := do
  checkLines definition.tree order
  checkFirst definition
  checkEnd definition.nextWalk.stop
  checkJumps definition.nextWalk.ids definition.nextWalk.visited

/-- Checks the line graph of a story of this name. -/
def validate (definition : StoryDefinition) (story : String) : Except EngineError Unit :=
  (definition.validateIn definition.tree.toList).mapError fun fault =>
    .validation (fault.message story)

end StoryDefinition

end StoryEngine

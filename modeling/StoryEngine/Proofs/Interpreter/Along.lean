import StoryEngine.Interpreter.Script
import StoryEngine.Proofs.Interpreter.Calls

/-!
# Scripted runs along a course

What a scripted run does in a sound story, by recursion on the course and without fuel. A line hands
on to later lines only, its block included, so every walk, at whatever depth of blocks, is a
recursion on the lines still to come. With enough fuel the interpreter does the same.
-/

namespace StoryEngine

variable {σ : Type}

/-- The variables at the start of a pass: the item, if the pass has one, under the first name that
the owner of the loop binds. -/
def passScope (owner : Line) (item? : Option Json) (scope : Scope) : Scope :=
  match item?, owner.output with
  | some item, some (name :: _) => scope.insert name item
  | some _, some [] | some _, none | none, _ => scope

/-- Starts a pass. -/
def bindPass (owner : Line) (item? : Option Json) : Run (RunState σ) Unit :=
  Run.ofAct (Act.modify fun s => { s with scope := passScope owner item? s.scope })

/-- The start of a pass changes the variables and nothing else. -/
@[simp] theorem carryOut_bindPass (owner : Line) (item? : Option Json) (s : RunState σ) :
    (bindPass owner item?).carryOut s =
      ⟨.ok (), { s with scope := passScope owner item? s.scope }, []⟩ :=
  Run.carryOut_ofAct _ s

/-- Runs a block once for each pass of a loop. A break or return ends the loop, and only the return
goes on to the lines around it. -/
def runPasses (block : Run (RunState σ) Outcome) (owner : Line) :
    List (Option Json) → Run (RunState σ) Outcome
  | [] => pure (.data none)
  | item? :: rest => do
    bindPass owner item?
    match ← block with
    | .data _ => runPasses block owner rest
    | .breakOut => pure (.data none)
    | .returned value => pure (.returned value)

namespace ScriptAction

/-- The passes of a loop: with an item each, or with none. -/
def passes : ScriptAction → List (Option Json)
  | forEach items => items.map some
  | repeatTimes times => List.replicate times none
  | data _ | breakOut | returned _ | fail _ | block => []

/-- How many times an action repeats a block; a loop over items has its own end. -/
def times : ScriptAction → Nat
  | repeatTimes times => times
  | data _ | breakOut | returned _ | fail _ | block | forEach _ => 0

/-- Performs an action for a line with a given block. -/
def performOn (block : Run (RunState σ) Outcome) (line : Line) (action : ScriptAction) :
    Run (RunState σ) Outcome :=
  match action with
  | data value => pure (.data (some value))
  | breakOut => pure .breakOut
  | returned value => pure (.returned value)
  | fail error => Run.fail error
  | .block => block
  | forEach _ | repeatTimes _ => runPasses block line action.passes

end ScriptAction

namespace Script

/-- Hands a line with a given block to the script. The block of a line that the script does not
mention runs once. -/
def dispatchOn (script : Script) (story : Story) (block : Run (RunState σ) Outcome) (line : Line) :
    Run (RunState σ) Outcome := do
  Run.emit (.dispatched story.name line.ln)
  match script[line.ln]? with
  | some action => action.performOn block line
  | none => if line.enter.isSome then block else pure (.data none)

/-- Walks the block of a line along a course. -/
def blockAlong (script : Script) (story : Story) :
    List Line → Line → Outcome → Option String → Run (RunState σ) Outcome
  | [], _, last, _ => pure last
  | _ :: _, _, last, none => pure last
  | line :: later, owner, last, some id =>
    if line.ln ≠ id then
      blockAlong script story later owner last (some id)
    else if line.parent ≠ some owner.ln then
      pure last
    else do
      let block := blockAlong script story later line .nothing line.enter
      let outcome ← script.dispatchOn story block line
      if outcome.isSentinel then
        pure outcome
      else
        blockAlong script story later owner outcome line.successor

/-- Walks a story along a course. -/
def storyAlong (script : Script) (story : Story) :
    List Line → Option String → Run (RunState σ) (Option Json)
  | [], _ => pure none
  | _ :: _, none => pure none
  | line :: later, some id =>
    if line.ln ≠ id then
      storyAlong script story later (some id)
    else do
      let block := blockAlong script story later line .nothing line.enter
      match ← script.dispatchOn story block line with
      | .returned value => pure value
      | .breakOut =>
        Run.log (Interpreter.strayBreak line)
        pure none
      | .data _ => storyAlong script story later line.successor

/-- The most times that a script repeats a block. -/
def mostTimes (script : Script) : Nat :=
  (script.toList.map fun entry => entry.2.times).max?.getD 0

/-- Fuel for the lines of a course: one for each line, for its depth, and one for each test of the
longest loop. -/
def fuelFor (script : Script) (lines : List Line) : Nat :=
  lines.length + script.mostTimes + 1

end Script

namespace Interpreter

/-- A pass with an item binds the item. -/
theorem bindItem_eq_bindPass (owner : Line) (item : Json) :
    bindItem owner item = bindPass (σ := σ) owner (some item) := by
  unfold bindItem bindPass passScope Line.firstOutput
  cases owner.output with
  | none => rfl
  | some names =>
    cases names with
    | nil => rfl
    | cons name _ => rfl

/-- The first pass of a loop, and what its outcome means for the others. -/
theorem runPasses_cons (block : Run (RunState σ) Outcome) (owner : Line) (item? : Option Json)
    (rest : List (Option Json)) :
    runPasses block owner (item? :: rest) = (do
      bindPass owner item?
      match loopEnd? (← block) with
      | some outcome => pure outcome
      | none => runPasses block owner rest) := by
  rw [runPasses]
  congr 1
  funext _
  congr 1
  funext outcome
  cases outcome <;> rfl

/-- A loop over items runs its passes. -/
theorem forEach_eq_runPasses (fuel : Nat) (dispatcher : Dispatcher σ) (story : Story) (owner : Line)
    (items : List Json) :
    forEach fuel dispatcher story owner items =
      runPasses (executeBlock fuel dispatcher story owner) owner (items.map some) := by
  induction items with
  | nil => rfl
  | cons item items ih =>
    rw [forEach, ih, bindItem_eq_bindPass]
    exact (runPasses_cons _ owner (some item) _).symm

/-- A counted loop runs its passes, if there is fuel for its tests. -/
theorem passesWhile_countdown (block : Run (RunState σ) Outcome) (owner : Line) {times fuel : Nat}
    (hfuel : times < fuel) :
    passesWhile block Script.countdown fuel times =
      runPasses block owner (List.replicate times none) := by
  induction times generalizing fuel with
  | zero =>
    obtain ⟨fuel, rfl⟩ := Nat.exists_eq_add_one.mpr hfuel
    rfl
  | succ times ih =>
    obtain ⟨fuel, rfl⟩ := Nat.exists_eq_add_one.mpr (Nat.zero_lt_of_lt hfuel)
    rw [passesWhile, Script.countdown, pure_bind]
    dsimp only
    rw [if_pos rfl, ih (Nat.lt_of_succ_lt_succ hfuel)]
    exact (runPasses_cons block owner none _).symm

end Interpreter

namespace Script

/-- With fuel for its tests, an action does with the lines of a block what it does with a block. -/
theorem perform_eq_performOn {fuel : Nat} {action : ScriptAction} (htimes : action.times < fuel)
    (inner : Dispatcher σ) (story : Story) (line : Line) :
    perform fuel inner story line action =
      action.performOn (Interpreter.executeBlock fuel inner story line) line := by
  cases action with
  | data | breakOut | returned | fail | block => rfl
  | forEach items => exact Interpreter.forEach_eq_runPasses fuel inner story line items
  | repeatTimes times => exact Interpreter.passesWhile_countdown _ line htimes

/-- The script mentions a line for which it has an action other than to run its block. -/
theorem scripted_of_actionFor? {script : Script} {line : Line} {action : ScriptAction}
    (haction : script.actionFor? line = some action) (hblock : action ≠ .block) :
    script[line.ln]? = some action := by
  unfold actionFor? at haction
  cases hlookup : script[line.ln]? with
  | some scripted =>
    rw [hlookup, Option.some_or] at haction
    exact haction
  | none =>
    rw [hlookup, Option.none_or] at haction
    split at haction
    · cases haction
      exact absurd rfl hblock
    · cases haction

/-- An action of a script repeats a block at most as often as the script does. -/
theorem times_le_mostTimes {script : Script} {line : Line} {action : ScriptAction}
    (haction : script.actionFor? line = some action) : action.times ≤ script.mostTimes := by
  by_cases hblock : action = .block
  · rw [hblock]
    exact Nat.zero_le _
  · have hscripted := scripted_of_actionFor? haction hblock
    have hmem := Std.ExtTreeMap.mem_toList_iff_getElem?_eq_some.mpr hscripted
    exact List.le_max?_getD_of_mem (List.mem_map_of_mem hmem)

/-- A line and a block are handed to the action of the line, if it has one. -/
theorem dispatchOn_eq (script : Script) (story : Story) (block : Run (RunState σ) Outcome)
    (line : Line) :
    script.dispatchOn story block line = (do
      Run.emit (.dispatched story.name line.ln)
      match script.actionFor? line with
      | some action => action.performOn block line
      | none => pure .nothing) := by
  unfold dispatchOn actionFor? Line.isBlockOwner
  cases script[line.ln]? with
  | some action => rfl
  | none => cases line.enter <;> rfl

/-- With fuel for its tests, the dispatcher of a script does what the script does for the block of
the line. -/
theorem dispatch_eq_dispatchOn {script : Script} {fuel : Nat} (hfuel : script.mostTimes < fuel)
    (story : Story) (line : Line) :
    Interpreter.dispatch (script.dispatcher (fuel + 1)) story line =
      script.dispatchOn (σ := σ) story
        (Interpreter.executeBlock fuel (script.dispatcher fuel) story line) line := by
  rw [Interpreter.dispatch, dispatchOn_eq, dispatcher]
  cases haction : script.actionFor? line with
  | none => simp only [haction]
  | some action =>
    have htimes := Nat.lt_of_le_of_lt (times_le_mostTimes haction) hfuel
    simp only [haction, perform_eq_performOn htimes]

/-- Without a line to go to, the walk of a block is over. -/
theorem blockAlong_none (script : Script) (story : Story) (lines : List Line) (owner : Line)
    (last : Outcome) : script.blockAlong (σ := σ) story lines owner last none = pure last := by
  cases lines <;> rfl

/-- Without a line to go to, the walk of a story is over. -/
theorem storyAlong_none (script : Script) (story : Story) (lines : List Line) :
    script.storyAlong (σ := σ) story lines none = pure none := by
  cases lines <;> rfl

/-- With enough fuel, the walk of a block follows the lines that it stays on. -/
theorem walkBlock_eq_blockAlong (script : Script) {story : Story} {lines : List Line}
    {pointer : Option String} (hwalk : WalksOn story.definition.tree lines pointer) (owner : Line)
    {fuel steps : Nat} (hfuel : script.fuelFor lines ≤ fuel) (hsteps : lines.length ≤ steps)
    (last : Outcome) :
    Interpreter.walkBlock (script.dispatcher fuel) story owner steps last pointer =
      script.blockAlong (σ := σ) story lines owner last pointer := by
  unfold fuelFor at hfuel
  induction hwalk generalizing owner fuel steps last with
  | nowhere lines => rw [Interpreter.walkBlock_none, blockAlong_none]
  | @here line later hfound _ _ ihenter ihsuccessor =>
    rw [List.length_cons] at hfuel hsteps
    obtain ⟨steps, rfl⟩ := Nat.exists_eq_add_one.mpr (Nat.zero_lt_of_lt hsteps)
    obtain ⟨fuel, rfl⟩ := Nat.exists_eq_add_one.mpr (Nat.zero_lt_of_lt hfuel)
    have hline := story.line_eq_ok hfound
    by_cases hparent : line.parent = some owner.ln
    · have hblock : Interpreter.executeBlock fuel (script.dispatcher fuel) story line =
          script.blockAlong (σ := σ) story later line .nothing line.enter :=
        ihenter line (by omega) (by omega) .nothing
      have hrest : ∀ outcome, Interpreter.walkBlock (script.dispatcher (fuel + 1)) story owner steps
          outcome line.successor =
          script.blockAlong (σ := σ) story later owner outcome line.successor :=
        fun outcome => ihsuccessor owner (by omega) (by omega) outcome
      rw [Interpreter.walkBlock_of_line hline hparent, dispatch_eq_dispatchOn (by omega), hblock]
      simp only [hrest, blockAlong, hparent, ne_eq, not_true, if_false]
    · rw [Interpreter.walkBlock_of_parent_ne hline hparent]
      simp only [blockAlong, hparent, ne_eq, not_true, not_false_eq_true, if_true, if_false]
  | further hid _ ih =>
    rw [List.length_cons] at hfuel hsteps
    rw [ih owner (by omega) (by omega) last]
    simp only [blockAlong, hid, ne_eq, not_false_eq_true, if_true]

/-- With enough fuel, the walk of a story follows the lines that it stays on. -/
theorem walk_eq_storyAlong (script : Script) {story : Story} {lines : List Line}
    {pointer : Option String} (hwalk : WalksOn story.definition.tree lines pointer)
    {fuel steps : Nat} (hfuel : script.fuelFor lines ≤ fuel) (hsteps : lines.length ≤ steps) :
    Interpreter.walk (script.dispatcher fuel) story steps pointer =
      script.storyAlong (σ := σ) story lines pointer := by
  unfold fuelFor at hfuel
  induction hwalk generalizing fuel steps with
  | nowhere lines => rw [Interpreter.walk_none, storyAlong_none]
  | @here line later hfound henter _ _ ih =>
    rw [List.length_cons] at hfuel hsteps
    obtain ⟨steps, rfl⟩ := Nat.exists_eq_add_one.mpr (Nat.zero_lt_of_lt hsteps)
    obtain ⟨fuel, rfl⟩ := Nat.exists_eq_add_one.mpr (Nat.zero_lt_of_lt hfuel)
    have hblock : Interpreter.executeBlock fuel (script.dispatcher fuel) story line =
        script.blockAlong (σ := σ) story later line .nothing line.enter :=
      walkBlock_eq_blockAlong script henter line (by unfold fuelFor; omega) (by omega) .nothing
    have hrest : Interpreter.walk (script.dispatcher (fuel + 1)) story steps line.successor =
        script.storyAlong (σ := σ) story later line.successor :=
      ih (by omega) (by omega)
    rw [Interpreter.walk_of_line (story.line_eq_ok hfound), dispatch_eq_dispatchOn (by omega),
      hblock]
    simp only [hrest]
    exact (if_neg (not_not_intro rfl)).symm
  | further hid _ ih =>
    rw [List.length_cons] at hfuel hsteps
    rw [ih (by omega) (by omega)]
    simp only [storyAlong, hid, ne_eq, not_false_eq_true, if_true]

/-- With enough fuel, a scripted run of a sound story follows its course. -/
theorem runStory_eq_storyAlong (script : Script) {story : Story} {name : String}
    (hvalid : story.definition.validate name = .ok ()) {fuel : Nat}
    (hfuel : script.fuelFor story.lines ≤ fuel) :
    Interpreter.runStory fuel (script.dispatcher fuel) story =
      script.storyAlong (σ := σ) story story.lines story.firstLine := by
  obtain ⟨hcourse, hfirst⟩ := story.firstLine_pointsInto hvalid
  have hsteps : story.lines.length ≤ fuel := by
    unfold fuelFor at hfuel
    omega
  exact walk_eq_storyAlong script (hcourse.walksOn hfirst) hfuel hsteps

end Script

end StoryEngine

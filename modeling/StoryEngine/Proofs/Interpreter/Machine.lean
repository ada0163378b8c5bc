import StoryEngine.Proofs.Interpreter.Along

/-!
# A machine for scripted runs

A scripted run in single steps, with the blocks and loops that are active on a stack. A block or a
loop is an activation; the walk of the innermost one is at a line or has an outcome, and what an
outcome does to the activations below it is written into the steps. A run that follows the course
of a story is a run of the machine, whatever is active below it.
-/

namespace StoryEngine

/-- A block or a loop that a run has entered and not yet left. -/
inductive Activation where
  /-- The block of a line, run once. -/
  | block (owner : Line)
  /-- A pass of a loop over the block of a line, with the passes after it. -/
  | loop (owner : Line) (passes : List (Option Json))

namespace Activation

/-- The line whose block is run. -/
def owner : Activation → Line
  | block owner | loop owner _ => owner

/-- Whether the activation is that of a loop. -/
def isLoop : Activation → Bool
  | block _ => false
  | loop _ _ => true

end Activation

namespace Machine

/-- What the machine is about to do. -/
inductive Control where
  /-- To go to a line in the innermost walk, with the outcome so far. -/
  | goTo (last : Outcome) (pointer : Option String)
  /-- To take up the outcome of a line in the innermost walk. -/
  | lineDone (line : Line) (outcome : Outcome)
  /-- To leave the innermost walk with an outcome. -/
  | walkDone (outcome : Outcome)
  /-- Nothing more. -/
  | halted (result : Except Stop (Option Json))

/-- A state of the machine: its control, the activations from the innermost to the outermost, and
the variables. -/
structure Config where
  control : Control
  stack : List Activation
  scope : Scope

namespace Config

/-- Before the first line of a story. -/
def initial (story : Story) (scope : Scope) : Config :=
  ⟨.goTo .nothing story.firstLine, [], scope⟩

/-- At the end of a run. -/
def final (result : Except Stop (Option Json)) (scope : Scope) : Config :=
  ⟨.halted result, [], scope⟩

/-- After a loop that has run its passes: its line is done, without data. -/
def afterLoop (owner : Line) (stack : List Activation) (scope : Scope) : Config :=
  ⟨.lineDone owner .nothing, stack, scope⟩

/-- Before the next pass of a loop, or after the loop if no pass is left. -/
def nextPass (owner : Line) (stack : List Activation) (scope : Scope) :
    List (Option Json) → Config
  | [] => afterLoop owner stack scope
  | item? :: rest =>
    ⟨.goTo .nothing owner.enter, .loop owner rest :: stack, passScope owner item? scope⟩

/-- After a line was handed to the script. -/
def performing (line : Line) (stack : List Activation) (scope : Scope) :
    Option ScriptAction → Config
  | none => ⟨.lineDone line .nothing, stack, scope⟩
  | some action =>
    match action with
    | .data value => ⟨.lineDone line (.data (some value)), stack, scope⟩
    | .breakOut => ⟨.lineDone line .breakOut, stack, scope⟩
    | .returned value => ⟨.lineDone line (.returned value), stack, scope⟩
    | .fail error => final (.error (.failed error)) scope
    | .block => ⟨.goTo .nothing line.enter, .block line :: stack, scope⟩
    | .forEach _ | .repeatTimes _ => nextPass line stack scope action.passes

/-- After an activation was left with an outcome. -/
def leaving (outcome : Outcome) (stack : List Activation) (scope : Scope) : Activation → Config
  | .block owner => ⟨.lineDone owner outcome, stack, scope⟩
  | .loop owner passes =>
    match outcome with
    | .data _ => nextPass owner stack scope passes
    | .breakOut => afterLoop owner stack scope
    | .returned value => ⟨.lineDone owner (.returned value), stack, scope⟩

end Config

/-- Whether a line belongs to the innermost walk. -/
def belongs (line : Line) : List Activation → Prop
  | [] => True
  | activation :: _ => line.parent = some activation.owner.ln

instance (line : Line) (stack : List Activation) : Decidable (belongs line stack) :=
  match stack with
  | [] => .isTrue trivial
  | activation :: _ => inferInstanceAs (Decidable (line.parent = some activation.owner.ln))

/-- Leaves the innermost walk; the walk of the story itself has no value without a return. -/
def leaveWalk (outcome : Outcome) (stack : List Activation) (scope : Scope) : Config :=
  match stack with
  | [] => .final (.ok none) scope
  | _ :: _ => ⟨.walkDone outcome, stack, scope⟩

/-- The next state, and the event that leads there, if it leaves one. -/
def step (script : Script) (story : Story) (config : Config) : Option (Option Event × Config) :=
  let ⟨control, stack, scope⟩ := config
  match control, stack with
  | .goTo last none, stack => some (none, leaveWalk last stack scope)
  | .goTo last (some id), stack =>
    match story.line id with
    | .error error => some (none, .final (.error (.failed error)) scope)
    | .ok line =>
      if belongs line stack then
        some (some (.dispatched story.name line.ln),
          .performing line stack scope (script.actionFor? line))
      else
        some (none, leaveWalk last stack scope)
  | .lineDone line (.data value), stack =>
    some (none, ⟨.goTo (.data value) line.successor, stack, scope⟩)
  | .lineDone _ (.returned value), [] => some (none, .final (.ok value) scope)
  | .lineDone line .breakOut, [] =>
    some (some (.logged (Interpreter.strayBreak line)), .final (.ok none) scope)
  | .lineDone _ outcome, stack@(_ :: _) => some (none, ⟨.walkDone outcome, stack, scope⟩)
  | .walkDone _, [] => none
  | .walkDone outcome, activation :: stack => some (none, .leaving outcome stack scope activation)
  | .halted _, _ => none

/-- The steps from one state to another, with the events that they leave. -/
inductive Steps (script : Script) (story : Story) : Config → Trace → Config → Prop
  | refl (config : Config) : Steps script story config [] config
  | next {config later last : Config} {event? : Option Event} {trace : Trace} :
      step script story config = some (event?, later) → Steps script story later trace last →
      Steps script story config (event?.toList ++ trace) last

variable {σ α β : Type} {script : Script} {story : Story}

/-- Steps go on from where other steps ended. -/
theorem Steps.trans {a b c : Config} {first second : Trace} (hfirst : Steps script story a first b)
    (hsecond : Steps script story b second c) : Steps script story a (first ++ second) c := by
  induction hfirst with
  | refl => exact hsecond
  | next hstep _ ih =>
    rw [List.append_assoc]
    exact .next hstep (ih hsecond)

/-- One step without an event. -/
theorem Steps.silent {a b : Config} (hstep : step script story a = some (none, b)) :
    Steps script story a [] b :=
  .next hstep (.refl b)

/-- One step with an event. -/
theorem Steps.leave {a b : Config} {event : Event}
    (hstep : step script story a = some (some event, b)) : Steps script story a [event] b :=
  .next hstep (.refl b)

/-- Where the machine is after a run that started in a state of the machine: with a value, in the
state that belongs to it; after a stop, at the end. -/
def landing (finish : α → Scope → Config) : Except Stop α → Scope → Config
  | .ok value, scope => finish value scope
  | .error stop, scope => .final (.error stop) scope

/-- The machine does what a run does: from the state that belongs to its start it takes steps with
the same events to the state that belongs to its result. The run changes variables only. -/
structure Realizes (script : Script) (story : Story) (run : Run (RunState σ) α)
    (start : Scope → Config) (finish : α → Scope → Config) : Prop where
  state_eq : ∀ s, (run.carryOut s).state = { s with scope := (run.carryOut s).state.scope }
  steps : ∀ s, Steps script story (start s.scope) (run.carryOut s).trace
    (landing finish (run.carryOut s).value (run.carryOut s).state.scope)

namespace Realizes

variable {start next : Scope → Config} {finish : α → Scope → Config} {run : Run (RunState σ) α}

/-- A run without an act takes no step. -/
theorem pure {value : α} (hstart : ∀ scope, start scope = finish value scope) :
    Realizes script story (Pure.pure value : Run (RunState σ) α) start finish := by
  refine ⟨fun _ => rfl, fun s => ?_⟩
  rw [hstart]
  exact .refl (finish value s.scope)

/-- A failure takes no step. -/
theorem fail {error : EngineError}
    (hstart : ∀ scope, start scope = .final (.error (.failed error)) scope) :
    Realizes script story (Run.fail error : Run (RunState σ) α) start finish := by
  refine ⟨fun _ => rfl, fun s => ?_⟩
  rw [hstart]
  exact .refl (.final (.error (.failed error)) s.scope)

/-- The machine goes on with what follows a run. -/
theorem bind {middle : α → Scope → Config} {finish : β → Scope → Config}
    {rest : α → Run (RunState σ) β} (hrun : Realizes script story run start middle)
    (hrest : ∀ value, Realizes script story (rest value) (middle value) finish) :
    Realizes script story (run >>= rest) start finish := by
  constructor
  · intro s
    have hstate := hrun.state_eq s
    rw [Run.carryOut_bind]
    cases hvalue : (run.carryOut s).value with
    | error stop => exact hstate
    | ok value =>
      have hlater := (hrest value).state_eq (run.carryOut s).state
      simp only
      rw [hlater, hstate]
  · intro s
    have hsteps := hrun.steps s
    rw [Run.carryOut_bind]
    cases hvalue : (run.carryOut s).value with
    | error stop =>
      rw [hvalue] at hsteps
      exact hsteps
    | ok value =>
      rw [hvalue] at hsteps
      exact hsteps.trans ((hrest value).steps _)

/-- The machine may take a step without an event first. -/
theorem of_step (hstep : ∀ scope, step script story (start scope) = some (none, next scope))
    (hrun : Realizes script story run next finish) : Realizes script story run start finish :=
  ⟨hrun.state_eq, fun s => .next (hstep s.scope) (hrun.steps s)⟩

/-- An event in front of a run is a step with the event. -/
theorem emit_bind {event : Event} (hstep : ∀ scope,
      step script story (start scope) = some (some event, next scope))
    (hrun : Realizes script story run next finish) :
    Realizes script story (Run.emit event >>= fun _ => run) start finish := by
  constructor
  · intro s
    rw [Run.carryOut_bind, Run.carryOut_emit]
    exact hrun.state_eq s
  · intro s
    rw [Run.carryOut_bind, Run.carryOut_emit]
    exact .next (hstep s.scope) (hrun.steps s)

/-- The start of a pass in front of a run changes the variables that the machine starts with. -/
theorem bindPass_bind {owner : Line} {item? : Option Json}
    (hrun : Realizes script story run next finish) :
    Realizes script story (bindPass owner item? >>= fun _ => run)
      (fun scope => next (passScope owner item? scope)) finish := by
  constructor
  · intro s
    rw [Run.carryOut_bind, carryOut_bindPass]
    simp only
    rw [hrun.state_eq]
  · intro s
    rw [Run.carryOut_bind, carryOut_bindPass]
    exact hrun.steps { s with scope := passScope owner item? s.scope }

end Realizes

/-- The machine runs the block of a line in every activation of the line: it starts where the block
is entered and ends where the block has an outcome, and the activations below stay as they are. -/
def RealizesBlock (script : Script) (story : Story) (block : Run (RunState σ) Outcome)
    (owner : Line) (last : Outcome) (pointer : Option String) : Prop :=
  ∀ (activation : Activation) (stack : List Activation), activation.owner = owner →
    Realizes script story block
      (fun scope => ⟨.goTo last pointer, activation :: stack, scope⟩)
      (fun outcome scope => ⟨.walkDone outcome, activation :: stack, scope⟩)

/-- The machine runs the passes of a loop. -/
theorem realizes_runPasses {block : Run (RunState σ) Outcome} {owner : Line}
    (hblock : RealizesBlock script story block owner .nothing owner.enter)
    (passes : List (Option Json)) (stack : List Activation) :
    Realizes script story (runPasses block owner passes)
      (fun scope => .nextPass owner stack scope passes)
      (fun outcome scope => ⟨.lineDone owner outcome, stack, scope⟩) := by
  induction passes with
  | nil => exact .pure fun _ => rfl
  | cons item? rest ih =>
    refine .bindPass_bind (.bind (hblock (.loop owner rest) stack rfl) fun outcome => ?_)
    cases outcome with
    | data value => exact .of_step (fun scope => rfl) ih
    | breakOut => exact .of_step (fun scope => rfl) (.pure fun _ => rfl)
    | returned value => exact .of_step (fun scope => rfl) (.pure fun _ => rfl)

/-- The machine performs an action for a line. -/
theorem realizes_performOn {block : Run (RunState σ) Outcome} {line : Line}
    (hblock : RealizesBlock script story block line .nothing line.enter)
    (action : ScriptAction) (stack : List Activation) :
    Realizes script story (action.performOn block line)
      (fun scope => .performing line stack scope (some action))
      (fun outcome scope => ⟨.lineDone line outcome, stack, scope⟩) := by
  cases action with
  | data value => exact .pure fun _ => rfl
  | breakOut => exact .pure fun _ => rfl
  | returned value => exact .pure fun _ => rfl
  | fail error => exact .fail fun _ => rfl
  | block =>
    have hleave : ∀ outcome, Realizes script story (pure outcome : Run (RunState σ) Outcome)
        (fun scope => ⟨.walkDone outcome, .block line :: stack, scope⟩)
        (fun outcome scope => ⟨.lineDone line outcome, stack, scope⟩) :=
      fun outcome => .of_step (fun scope => rfl) (.pure fun _ => rfl)
    have hrun := (hblock (.block line) stack rfl).bind hleave
    rwa [bind_pure] at hrun
  | forEach items => exact realizes_runPasses hblock _ stack
  | repeatTimes times => exact realizes_runPasses hblock _ stack

/-- The machine hands a line of the innermost walk to the script. -/
theorem realizes_dispatchOn {block : Run (RunState σ) Outcome} {line : Line} {id : String}
    (hblock : RealizesBlock script story block line .nothing line.enter)
    (hline : story.line id = .ok line) {stack : List Activation} (hbelongs : belongs line stack)
    (last : Outcome) :
    Realizes script story (script.dispatchOn story block line)
      (fun scope => ⟨.goTo last (some id), stack, scope⟩)
      (fun outcome scope => ⟨.lineDone line outcome, stack, scope⟩) := by
  have hstep : ∀ scope, step script story ⟨.goTo last (some id), stack, scope⟩ =
      some (some (.dispatched story.name line.ln),
        .performing line stack scope (script.actionFor? line)) := by
    intro scope
    simp only [step, hline, hbelongs, if_true]
  rw [Script.dispatchOn_eq]
  refine .emit_bind hstep ?_
  cases script.actionFor? line with
  | none => exact .pure fun _ => rfl
  | some action => exact realizes_performOn hblock action stack

/-- The machine walks a block. -/
theorem realizes_blockAlong {lines : List Line} {pointer : Option String}
    (hwalk : WalksOn story.definition.tree lines pointer) (owner : Line) (last : Outcome) :
    RealizesBlock (σ := σ) script story (script.blockAlong story lines owner last pointer) owner
      last pointer := by
  induction hwalk generalizing owner last with
  | nowhere lines =>
    rw [Script.blockAlong_none]
    exact fun activation stack _ => .of_step (fun scope => rfl) (.pure fun _ => rfl)
  | @here line later hfound _ _ ihenter ihsuccessor =>
    rw [Script.blockAlong, if_neg (not_not_intro rfl)]
    have hline := story.line_eq_ok hfound
    intro activation stack howner
    subst howner
    by_cases hparent : line.parent = some activation.owner.ln
    · rw [if_neg (not_not_intro hparent)]
      have hbelongs : belongs line (activation :: stack) := hparent
      have hblock := ihenter line .nothing
      refine .bind (realizes_dispatchOn hblock hline hbelongs last) fun outcome => ?_
      cases outcome with
      | data value =>
        exact .of_step (fun scope => rfl) (ihsuccessor activation.owner _ activation stack rfl)
      | breakOut => exact .of_step (fun scope => rfl) (.pure fun _ => rfl)
      | returned value => exact .of_step (fun scope => rfl) (.pure fun _ => rfl)
    · rw [if_pos hparent]
      refine .of_step (fun scope => ?_) (.pure fun _ => rfl)
      simp only [step, hline, belongs, hparent, if_false, leaveWalk]
  | further hid _ ih =>
    rw [Script.blockAlong, if_pos hid]
    exact ih owner last

/-- The machine walks a story. -/
theorem realizes_storyAlong {lines : List Line} {pointer : Option String}
    (hwalk : WalksOn story.definition.tree lines pointer) (last : Outcome) :
    Realizes (σ := σ) script story (script.storyAlong story lines pointer)
      (fun scope => ⟨.goTo last pointer, [], scope⟩) (fun value => .final (.ok value)) := by
  induction hwalk generalizing last with
  | nowhere lines =>
    rw [Script.storyAlong_none]
    exact .of_step (fun scope => rfl) (.pure fun _ => rfl)
  | @here line later hfound henter _ _ ih =>
    rw [Script.storyAlong, if_neg (not_not_intro rfl)]
    have hbelongs : belongs line [] := trivial
    have hblock : RealizesBlock script story
        (script.blockAlong (σ := σ) story later line .nothing line.enter) line .nothing
        line.enter :=
      realizes_blockAlong henter line .nothing
    refine .bind (realizes_dispatchOn hblock (story.line_eq_ok hfound) hbelongs last)
      fun outcome => ?_
    cases outcome with
    | data value => exact .of_step (fun scope => rfl) (ih _)
    | breakOut => exact .emit_bind (fun scope => rfl) (.pure fun _ => rfl)
    | returned value => exact .of_step (fun scope => rfl) (.pure fun _ => rfl)
  | further hid _ ih =>
    rw [Script.storyAlong, if_pos hid]
    exact ih last

/-- With enough fuel, a scripted run of a sound story is a run of the machine, from before the first
line to the end, and changes variables only. -/
theorem steps_runStory (script : Script) {story : Story} {name : String}
    (hvalid : story.definition.validate name = .ok ()) {fuel : Nat}
    (hfuel : script.fuelFor story.lines ≤ fuel) (s : RunState σ) :
    let run := (Interpreter.runStory fuel (script.dispatcher fuel) story).carryOut s
    run.state = { s with scope := run.state.scope } ∧
      Steps script story (.initial story s.scope) run.trace (.final run.value run.state.scope) := by
  obtain ⟨hcourse, hfirst⟩ := story.firstLine_pointsInto hvalid
  have hrun : Realizes script story (script.storyAlong (σ := σ) story story.lines story.firstLine)
      (.initial story) (fun value => .final (.ok value)) :=
    realizes_storyAlong (hcourse.walksOn hfirst) .nothing
  rw [script.runStory_eq_storyAlong hvalid hfuel]
  refine ⟨hrun.state_eq s, ?_⟩
  have hsteps := hrun.steps s
  have hlanding : ∀ result, landing (fun value => .final (.ok value)) result = .final result := by
    intro result
    cases result <;> rfl
  rw [hlanding] at hsteps
  exact hsteps

end Machine

end StoryEngine

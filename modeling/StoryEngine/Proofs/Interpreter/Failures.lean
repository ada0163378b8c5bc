import StoryEngine.Proofs.Interpreter.Calls

/-!
# Where errors come from

The interpreter has no errors of its own in a sound story. The pointers of a line that is filed in
the story name lines of it, so a walk of a block always finds its next line, wherever in the story
the owner of the block stands. A block, and a loop over it, can fail only with the errors of the
dispatcher for lines of the story, and a loop also with those of its condition.
-/

namespace StoryEngine

variable {σ τ α β γ : Type} {errors : EngineError → Prop}

/-- Whether a run fails with errors of some kind only. -/
def FailsOnlyWith (errors : EngineError → Prop) (run : Run τ α) : Prop :=
  ∀ s error, (run.carryOut s).value = .error (.failed error) → errors error

namespace FailsOnlyWith

/-- A run without an act does not fail. -/
theorem pure (value : α) : FailsOnlyWith errors (Pure.pure value : Run τ α) := by
  intro s error herror
  cases herror

/-- Running out of fuel is no failure. -/
theorem outOfFuel : FailsOnlyWith errors (throw .outOfFuel : Run τ α) := by
  intro s error herror
  cases herror

/-- An act does not fail. -/
theorem ofAct (act : Act Event τ α) : FailsOnlyWith errors (Run.ofAct act) := by
  intro s error herror
  rw [Run.carryOut_ofAct] at herror
  cases herror

/-- A run fails with the errors with which its first part and all that can follow fail. -/
theorem bind {run : Run τ α} {next : α → Run τ β} (hrun : FailsOnlyWith errors run)
    (hnext : ∀ value, FailsOnlyWith errors (next value)) : FailsOnlyWith errors (run >>= next) := by
  intro s error herror
  rw [Run.carryOut_bind] at herror
  cases hvalue : (run.carryOut s).value with
  | error stop =>
    rw [hvalue] at herror
    cases herror
    exact hrun s error hvalue
  | ok value =>
    rw [hvalue] at herror
    exact hnext value _ error herror

end FailsOnlyWith

/-- Whether a line is filed in a story under its id. -/
def Story.Has (story : Story) (line : Line) : Prop :=
  story.definition.tree[line.ln]? = some line

/-- The successor of a line is one of the ids to which it points. -/
theorem Line.mem_pointers_of_successor {line : Line} {id : String}
    (hid : line.successor = some id) : id ∈ line.pointers := by
  unfold Line.successor at hid
  split at hid <;> simp [Line.pointers, hid]

/-- In a sound story, an id that is filed is that of a line, which points to ids that are filed. -/
theorem Story.exists_line {story : Story} {name : String}
    (hvalid : story.definition.validate name = .ok ()) {id : String}
    (hid : id ∈ story.definition.tree) :
    ∃ line, story.line id = .ok line ∧ story.Has line ∧
      ∀ other ∈ line.pointers, other ∈ story.definition.tree := by
  obtain ⟨line, hline⟩ := Option.isSome_iff_exists.mp
    (Std.ExtTreeMap.mem_iff_isSome_getElem?.mp hid)
  obtain ⟨rfl, hpointers⟩ := StoryDefinition.filed_of_validate hvalid hline
  exact ⟨line, story.line_eq_ok hline, hline, hpointers⟩

/-- In a sound story, a line that is filed points to ids that are filed. -/
theorem Story.Has.pointers_mem {story : Story} {name : String}
    (hvalid : story.definition.validate name = .ok ()) {line : Line} (hline : story.Has line) :
    ∀ id ∈ line.pointers, id ∈ story.definition.tree :=
  (StoryDefinition.filed_of_validate hvalid hline).2

namespace Interpreter

section

variable {story : Story} {name : String} {dispatcher : Dispatcher σ}

/-- The walk of a block finds its lines, and fails only where a line of the story fails. -/
theorem walkBlock_failsOnlyWith (hvalid : story.definition.validate name = .ok ())
    (hdispatcher : ∀ line, story.Has line → FailsOnlyWith errors (dispatcher story line))
    (owner : Line) (fuel : Nat) (last : Outcome) {pointer : Option String}
    (hpointer : ∀ id, pointer = some id → id ∈ story.definition.tree) :
    FailsOnlyWith errors (walkBlock dispatcher story owner fuel last pointer) := by
  induction fuel generalizing last pointer with
  | zero =>
    cases pointer with
    | none => rw [walkBlock_none]; exact .pure last
    | some id => exact .outOfFuel
  | succ fuel ih =>
    cases pointer with
    | none => rw [walkBlock_none]; exact .pure last
    | some id =>
      obtain ⟨line, hline, hhas, hpointers⟩ := story.exists_line hvalid (hpointer id rfl)
      by_cases hparent : line.parent = some owner.ln
      · rw [walkBlock_of_line hline hparent]
        refine .bind (.bind (.ofAct _) fun _ => hdispatcher line hhas) fun outcome => ?_
        split
        · exact .pure outcome
        · exact ih outcome fun other hother =>
            hpointers other (Line.mem_pointers_of_successor hother)
      · rw [walkBlock_of_parent_ne hline hparent]
        exact .pure last

/-- A block fails only where a line of the story fails. -/
theorem executeBlock_failsOnlyWith (hvalid : story.definition.validate name = .ok ())
    (hdispatcher : ∀ line, story.Has line → FailsOnlyWith errors (dispatcher story line))
    {owner : Line} (howner : story.Has owner) (fuel : Nat) :
    FailsOnlyWith errors (executeBlock fuel dispatcher story owner) := by
  refine walkBlock_failsOnlyWith hvalid hdispatcher owner fuel .nothing fun id hid => ?_
  exact howner.pointers_mem hvalid id (by simp [Line.pointers, hid])

/-- A loop over items fails only where a line of the story fails. -/
theorem forEach_failsOnlyWith (hvalid : story.definition.validate name = .ok ())
    (hdispatcher : ∀ line, story.Has line → FailsOnlyWith errors (dispatcher story line))
    {owner : Line} (howner : story.Has owner) (fuel : Nat) (items : List Json) :
    FailsOnlyWith errors (forEach fuel dispatcher story owner items) := by
  induction items with
  | nil => exact .pure _
  | cons item rest ih =>
    have hbind : FailsOnlyWith errors (bindItem owner item : Run (RunState σ) Unit) := by
      unfold bindItem
      split
      · exact .ofAct _
      · exact .pure ()
    have hblock := executeBlock_failsOnlyWith hvalid hdispatcher howner fuel
    refine .bind hbind fun _ => .bind hblock fun outcome => ?_
    split
    · exact .pure _
    · exact ih

/-- A loop with a condition fails only where a line of the story or the condition fails. -/
theorem loopWhile_failsOnlyWith (hvalid : story.definition.validate name = .ok ())
    (hdispatcher : ∀ line, story.Has line → FailsOnlyWith errors (dispatcher story line))
    {owner : Line} (howner : story.Has owner) (fuel : Nat) {condition : Condition σ γ}
    (hcondition : ∀ memory, FailsOnlyWith errors (condition memory)) (memory : γ) :
    FailsOnlyWith errors (loopWhile fuel dispatcher story owner condition memory) := by
  have hblock := executeBlock_failsOnlyWith hvalid hdispatcher howner fuel
  have hpasses (passes : Nat) (memory : γ) : FailsOnlyWith errors
      (passesWhile (executeBlock fuel dispatcher story owner) condition passes memory) := by
    induction passes generalizing memory with
    | zero => exact .outOfFuel
    | succ passes ih =>
      refine .bind (hcondition memory) fun (holds, memory) => ?_
      cases holds with
      | false => exact .pure _
      | true =>
        refine .bind hblock fun outcome => ?_
        split
        · exact .pure _
        · exact ih memory
  exact hpasses fuel memory

end

/-- Whether the interpreter has no errors of its own in a story: whatever runs the lines of the
story, and wherever a block stands in it, the block fails only with errors of its lines, and a loop
also with those of its condition. -/
structure AddsNoErrors (story : Story) : Prop where
  block : ∀ (errors : EngineError → Prop) {σ : Type} (dispatcher : Dispatcher σ),
    (∀ line, story.Has line → FailsOnlyWith errors (dispatcher story line)) →
      ∀ owner, story.Has owner → ∀ fuel,
        FailsOnlyWith errors (executeBlock fuel dispatcher story owner)
  items : ∀ (errors : EngineError → Prop) {σ : Type} (dispatcher : Dispatcher σ),
    (∀ line, story.Has line → FailsOnlyWith errors (dispatcher story line)) →
      ∀ owner, story.Has owner → ∀ fuel items,
        FailsOnlyWith errors (forEach fuel dispatcher story owner items)
  condition : ∀ (errors : EngineError → Prop) {σ γ : Type} (dispatcher : Dispatcher σ),
    (∀ line, story.Has line → FailsOnlyWith errors (dispatcher story line)) →
      ∀ owner, story.Has owner → ∀ fuel (condition : Condition σ γ),
        (∀ memory, FailsOnlyWith errors (condition memory)) → ∀ memory,
          FailsOnlyWith errors (loopWhile fuel dispatcher story owner condition memory)

/-- The interpreter has no errors of its own in a sound story. -/
theorem addsNoErrors {story : Story} {name : String}
    (hvalid : story.definition.validate name = .ok ()) : AddsNoErrors story where
  block _ _ _ hdispatcher _ howner fuel :=
    executeBlock_failsOnlyWith hvalid hdispatcher howner fuel
  items _ _ _ hdispatcher _ howner fuel items :=
    forEach_failsOnlyWith hvalid hdispatcher howner fuel items
  condition _ _ _ _ hdispatcher _ howner fuel _ hcondition memory :=
    loopWhile_failsOnlyWith hvalid hdispatcher howner fuel hcondition memory

end Interpreter

end StoryEngine

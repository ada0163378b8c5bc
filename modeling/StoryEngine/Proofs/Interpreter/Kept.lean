import StoryEngine.Interpreter.Script

/-!
# Properties that the interpreter keeps

A property of runs that the simplest runs have and that passes from two runs to the one that carries
them out in turn is kept by the interpreter: walks, blocks and loops have it if the dispatcher does,
which may hand the lines of a block on to itself.
-/

namespace StoryEngine.Interpreter

variable {σ γ : Type}

/-- Whether a property of runs is one of the simplest runs and passes to runs in turn. -/
structure Kept (holds : {α : Type} → Run (RunState σ) α → Prop) : Prop where
  pure : ∀ {α : Type} (value : α), holds (Pure.pure value)
  throw : ∀ {α : Type} (stop : Stop), holds (MonadExcept.throw stop : Run (RunState σ) α)
  emit : ∀ event, holds (Run.emit event)
  bindVariable : ∀ name value, holds (Interpreter.bindVariable name value)
  bind : ∀ {α β : Type} {run : Run (RunState σ) α} {next : α → Run (RunState σ) β},
    holds run → (∀ value, holds (next value)) → holds (run >>= next)

namespace Kept

variable {holds : {α : Type} → Run (RunState σ) α → Prop} {dispatcher : Dispatcher σ}

/-- A result that was reached without an act has a property that is kept. -/
theorem ofExcept (h : Kept holds) {α : Type} (result : Except EngineError α) :
    holds (Run.ofExcept result : Run (RunState σ) α) := by
  cases result with
  | ok value => exact h.pure value
  | error error => exact h.throw _

/-- A line that is handed on has a property that is kept. -/
theorem dispatch (h : Kept holds) (hdispatcher : ∀ story line, holds (dispatcher story line))
    (story : Story) (line : Line) : holds (Interpreter.dispatch dispatcher story line) :=
  h.bind (h.emit _) fun _ => hdispatcher story line

/-- A walk has a property that is kept. -/
theorem walk (h : Kept holds) (hdispatcher : ∀ story line, holds (dispatcher story line))
    (story : Story) (fuel : Nat) (pointer : Option String) :
    holds (Interpreter.walk dispatcher story fuel pointer) := by
  fun_induction Interpreter.walk dispatcher story fuel pointer with
  | case1 => exact h.pure none
  | case2 => exact h.throw _
  | case3 fuel id ih =>
    refine h.bind (h.ofExcept _) fun line => ?_
    refine h.bind (h.dispatch hdispatcher story line) fun outcome => ?_
    cases outcome with
    | returned value => exact h.pure value
    | breakOut => exact h.bind (h.emit _) fun _ => h.pure none
    | data value => exact ih line

/-- The walk of a block has a property that is kept. -/
theorem walkBlock (h : Kept holds) (hdispatcher : ∀ story line, holds (dispatcher story line))
    (story : Story) (owner : Line) (fuel : Nat) (last : Outcome) (pointer : Option String) :
    holds (Interpreter.walkBlock dispatcher story owner fuel last pointer) := by
  fun_induction Interpreter.walkBlock dispatcher story owner fuel last pointer with
  | case1 => exact h.pure _
  | case2 => exact h.throw _
  | case3 fuel last id ih =>
    refine h.bind (h.ofExcept _) fun line => ?_
    split
    · refine h.bind (h.dispatch hdispatcher story line) fun outcome => ?_
      split
      · exact h.pure outcome
      · exact ih line outcome
    · exact h.pure last

/-- A loop over items has a property that is kept. -/
theorem forEach (h : Kept holds) (hdispatcher : ∀ story line, holds (dispatcher story line))
    (fuel : Nat) (story : Story) (owner : Line) (items : List Json) :
    holds (Interpreter.forEach fuel dispatcher story owner items) := by
  induction items with
  | nil => exact h.pure _
  | cons item rest ih =>
    have hitem : holds (bindItem owner item : Run (RunState σ) Unit) := by
      unfold bindItem
      split
      · exact h.bindVariable _ item
      · exact h.pure ()
    have hblock := h.walkBlock hdispatcher story owner fuel .nothing owner.enter
    refine h.bind hitem fun _ => h.bind hblock fun outcome => ?_
    split
    · exact h.pure _
    · exact ih

/-- A loop has a property that is kept if its condition does. -/
theorem loopWhile (h : Kept holds) (hdispatcher : ∀ story line, holds (dispatcher story line))
    (fuel : Nat) (story : Story) (owner : Line) {condition : Condition σ γ}
    (hcondition : ∀ memory, holds (condition memory)) (memory : γ) :
    holds (Interpreter.loopWhile fuel dispatcher story owner condition memory) := by
  have hblock := h.walkBlock hdispatcher story owner fuel .nothing owner.enter
  have hpasses (passes : Nat) (memory : γ) : holds
      (passesWhile (executeBlock fuel dispatcher story owner) condition passes memory) := by
    induction passes generalizing memory with
    | zero => exact h.throw _
    | succ passes ih =>
      refine h.bind (hcondition memory) fun (goesOn, memory) => ?_
      cases goesOn with
      | false => exact h.pure _
      | true =>
        refine h.bind hblock fun outcome => ?_
        split
        · exact h.pure _
        · exact ih memory
  exact hpasses fuel memory

/-- What a script does for a line has a property that is kept. -/
theorem script (h : Kept holds) (script : Script) (fuel : Nat) (story : Story) (line : Line) :
    holds (script.dispatcher fuel story line : Run (RunState σ) Outcome) := by
  induction fuel generalizing story line with
  | zero => exact h.throw _
  | succ fuel ih =>
    unfold Script.dispatcher
    split
    · rename_i action _
      cases action with
      | data value | breakOut | returned value => exact h.pure _
      | fail error => exact h.throw _
      | block => exact h.walkBlock ih story line fuel .nothing line.enter
      | forEach items => exact h.forEach ih fuel story line items
      | repeatTimes times =>
        refine h.loopWhile ih fuel story line (fun memory => ?_) times
        cases memory <;> exact h.pure _
    · exact h.pure _

end Kept

end StoryEngine.Interpreter

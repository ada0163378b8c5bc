import StoryEngine.Proofs.Interpreter.Calls
import StoryEngine.Proofs.Interpreter.Kept

/-!
# Runs that depend on variables only

A run shows its value, the variables that it leaves and the lines that it dispatches. It depends on
variables only if it shows the same from all states with the same variables, whatever the registry
and the state of the dispatcher. The interpreter keeps this, and in a sound story the fuel of a run
has no say in it either, as long as there is some for each line.
-/

namespace StoryEngine

variable {σ α β : Type}

/-- Whether two runs show the same. -/
structure Alike (left other : Acted Event (RunState σ) (Except Stop α)) : Prop where
  value : left.value = other.value
  scope : left.state.scope = other.state.scope
  dispatches : Trace.dispatches left.trace = Trace.dispatches other.trace

/-- Whether a run shows the same from all states with the same variables. -/
def ScopeOnly (run : Run (RunState σ) α) : Prop :=
  ∀ s t : RunState σ, s.scope = t.scope → Alike (run.carryOut s) (run.carryOut t)

/-- Whether a dispatcher executes lines in a way that depends on variables only. -/
def Dispatcher.ScopeOnly (dispatcher : Dispatcher σ) : Prop :=
  ∀ story line, StoryEngine.ScopeOnly (dispatcher story line)

namespace ScopeOnly

/-- A run without an act depends on nothing. -/
theorem pure (value : α) : ScopeOnly (Pure.pure value : Run (RunState σ) α) :=
  fun _ _ hscope => ⟨rfl, hscope, rfl⟩

/-- A stop depends on nothing. -/
theorem throw (stop : Stop) : ScopeOnly (MonadExcept.throw stop : Run (RunState σ) α) :=
  fun _ _ hscope => ⟨rfl, hscope, rfl⟩

/-- An event depends on nothing. -/
theorem emit (event : Event) : ScopeOnly (Run.emit event : Run (RunState σ) Unit) := by
  intro s t hscope
  rw [Run.carryOut_emit, Run.carryOut_emit]
  exact ⟨rfl, hscope, rfl⟩

/-- What the binding of a variable leaves depends on the variables before it. -/
theorem bindVariable (name : String) (value : Json) :
    ScopeOnly (Interpreter.bindVariable name value : Run (RunState σ) Unit) := by
  intro s t hscope
  simp only [Interpreter.bindVariable, Run.carryOut_ofAct, Act.run_modify, hscope]
  exact ⟨rfl, rfl, rfl⟩

/-- The value of a variable depends on variables only. -/
theorem readVariable (name : String) :
    ScopeOnly (Interpreter.readVariable name : Run (RunState σ) (Option Json)) := by
  intro s t hscope
  simp only [Interpreter.readVariable, Run.carryOut_ofAct, Act.run_bind, Act.run_get, Act.run_pure,
    hscope]
  exact ⟨rfl, hscope, rfl⟩

/-- A run depends on variables only if its first part does and all that can follow does. -/
theorem bind {run : Run (RunState σ) α} {next : α → Run (RunState σ) β} (hrun : ScopeOnly run)
    (hnext : ∀ value, ScopeOnly (next value)) : ScopeOnly (run >>= next) := by
  intro s t hscope
  obtain ⟨hvalue, hleft, hdispatches⟩ := hrun s t hscope
  rw [Run.carryOut_bind, Run.carryOut_bind, hvalue]
  cases (run.carryOut t).value with
  | error stop => exact ⟨rfl, hleft, hdispatches⟩
  | ok value =>
    obtain ⟨hlast, hafter, hlater⟩ := hnext value _ _ hleft
    refine ⟨hlast, hafter, ?_⟩
    rw [Trace.dispatches_append, Trace.dispatches_append, hdispatches, hlater]

end ScopeOnly

namespace Interpreter

/-- The interpreter keeps that runs depend on variables only. -/
theorem scopeOnly_kept : Kept (σ := σ) fun {_} run => ScopeOnly run where
  pure := .pure
  throw := .throw
  emit := .emit
  bindVariable := .bindVariable
  bind := .bind

/-- A run of a story depends on variables only if the dispatcher does. -/
theorem runStory_scopeOnly {dispatcher : Dispatcher σ} (hscope : dispatcher.ScopeOnly)
    (fuel : Nat) (story : Story) : ScopeOnly (runStory fuel dispatcher story) :=
  scopeOnly_kept.walk hscope story fuel story.firstLine

/-- Two walks that stay on some lines and have fuel for them are the same. -/
theorem walk_eq_of_fuel {story : Story} {lines : List Line} {pointer : Option String}
    (hwalk : WalksOn story.definition.tree lines pointer) (dispatcher : Dispatcher σ)
    {fuel other : Nat} (hfuel : lines.length ≤ fuel) (hother : lines.length ≤ other) :
    walk dispatcher story fuel pointer = walk dispatcher story other pointer := by
  induction hwalk generalizing fuel other with
  | nowhere lines => rw [walk_none, walk_none]
  | here hfound _ _ _ ih =>
    obtain ⟨fuel, rfl⟩ := Nat.exists_eq_add_one.mpr (Nat.zero_lt_of_lt hfuel)
    obtain ⟨other, rfl⟩ := Nat.exists_eq_add_one.mpr (Nat.zero_lt_of_lt hother)
    have hline := story.line_eq_ok hfound
    rw [walk_of_line hline, walk_of_line hline,
      ih (Nat.le_of_succ_le_succ hfuel) (Nat.le_of_succ_le_succ hother)]
  | further _ _ ih => exact ih (Nat.le_of_succ_le hfuel) (Nat.le_of_succ_le hother)

/-- A run of a sound story is the same with all fuel that is enough for its lines. -/
theorem runStory_eq_of_fuel {story : Story} {name : String}
    (hvalid : story.definition.validate name = .ok ()) (dispatcher : Dispatcher σ)
    {fuel other : Nat} (hfuel : story.lines.length ≤ fuel) (hother : story.lines.length ≤ other) :
    runStory fuel dispatcher story = runStory other dispatcher story := by
  obtain ⟨hcourse, hfirst⟩ := story.firstLine_pointsInto hvalid
  exact walk_eq_of_fuel (hcourse.walksOn hfirst) dispatcher hfuel hother

end Interpreter

end StoryEngine

import StoryEngine.Act
import StoryEngine.Trace

/-!
# Runs

A run is an act of the engine that may stop early, with an error or because its fuel is used up.
What it did before it stopped stays in the state and in the trace.
-/

namespace StoryEngine

/-- Why a run stopped before its end. -/
inductive Stop where
  | failed (error : EngineError)
  | outOfFuel
  deriving DecidableEq, Repr

/-- An act of the engine that may stop early. -/
abbrev Run (σ : Type) := ExceptT Stop (Act Event σ)

namespace Run

variable {σ τ α β : Type}

/-- Carries a run out from a state. -/
def carryOut (run : Run σ α) (s : σ) : Acted Event σ (Except Stop α) :=
  (ExceptT.run run).run s

/-- A result that was reached without an act. -/
def ofExcept : Except EngineError α → Run σ α
  | .ok value => pure value
  | .error error => throw (.failed error)

/-- An act that does not stop. -/
def ofAct (act : Act Event σ α) : Run σ α :=
  ExceptT.lift act

/-- An act whose value tells whether it failed. -/
def ofOutcome (act : Act Event σ (Except EngineError α)) : Run σ α := do
  ofExcept (← ofAct act)

/-- Stops with an error. -/
def fail (error : EngineError) : Run σ α :=
  throw (.failed error)

/-- Leaves one event. -/
def emit (event : Event) : Run σ Unit :=
  ofAct (Act.emit event)

/-- Logs one record. -/
def log (record : LogRecord) : Run σ Unit :=
  emit (.logged record)

/-- Carries a run out on a part of the state or on a state made for it. -/
def through (enter : σ → τ) (leave : σ → τ → σ) (run : Run τ α) : Run σ α :=
  ExceptT.mk (Act.through enter leave run.run)

@[simp] theorem carryOut_pure (value : α) (s : σ) :
    (pure value : Run σ α).carryOut s = ⟨.ok value, s, []⟩ := rfl

@[simp] theorem carryOut_throw (stop : Stop) (s : σ) :
    (throw stop : Run σ α).carryOut s = ⟨.error stop, s, []⟩ := rfl

/-- A run that stops takes what follows it with it; otherwise what follows starts where it ended. -/
theorem carryOut_bind (run : Run σ α) (next : α → Run σ β) (s : σ) :
    (run >>= next).carryOut s =
      match (run.carryOut s).value with
      | .ok value =>
        let rest := (next value).carryOut (run.carryOut s).state
        ⟨rest.value, rest.state, (run.carryOut s).trace ++ rest.trace⟩
      | .error stop => ⟨.error stop, (run.carryOut s).state, (run.carryOut s).trace⟩ := by
  show ((ExceptT.run run >>= ExceptT.bindCont next : Act Event σ _)).run s = _
  rw [Act.run_bind]
  change Acted.mk _ _ _ = match ((ExceptT.run run).run s).value with
    | .ok value => _
    | .error stop => _
  cases h : ((ExceptT.run run).run s).value with
  | ok value => rfl
  | error stop =>
    simp only [ExceptT.bindCont, Act.run_pure, List.append_nil]
    rfl

@[simp] theorem carryOut_ofExcept_ok (value : α) (s : σ) :
    (ofExcept (.ok value) : Run σ α).carryOut s = ⟨.ok value, s, []⟩ := rfl

@[simp] theorem carryOut_ofExcept_error (error : EngineError) (s : σ) :
    (ofExcept (.error error) : Run σ α).carryOut s = ⟨.error (.failed error), s, []⟩ := rfl

@[simp] theorem carryOut_fail (error : EngineError) (s : σ) :
    (fail error : Run σ α).carryOut s = ⟨.error (.failed error), s, []⟩ := rfl

@[simp] theorem carryOut_ofAct (act : Act Event σ α) (s : σ) :
    (ofAct act).carryOut s = ⟨.ok (act.run s).value, (act.run s).state, (act.run s).trace⟩ := by
  show (Except.ok <$> act : Act Event σ _).run s = _
  rw [Act.run_map]

@[simp] theorem carryOut_emit (event : Event) (s : σ) :
    (emit event).carryOut s = ⟨.ok (), s, [event]⟩ := by
  simp [emit]

@[simp] theorem carryOut_log (record : LogRecord) (s : σ) :
    (log record).carryOut s = ⟨.ok (), s, [.logged record]⟩ := by
  simp [log]

@[simp] theorem carryOut_through (enter : σ → τ) (leave : σ → τ → σ) (run : Run τ α) (s : σ) :
    (through enter leave run).carryOut s =
      ⟨(run.carryOut (enter s)).value, leave s (run.carryOut (enter s)).state,
        (run.carryOut (enter s)).trace⟩ := rfl

end Run

end StoryEngine

/-!
# Acts

An act reads and changes a state and leaves a trace of events. Traces only grow: what an act does
later cannot take back what it did before. Each part of the engine has events of its own kind, and
the events of one part are relabelled when another part takes them up.
-/

namespace StoryEngine

/-- What an act leaves: its value, the new state and the events in order. -/
structure Acted (ε σ α : Type) where
  value : α
  state : σ
  trace : List ε
  deriving DecidableEq

/-- A step that works on a state and leaves a trace. -/
def Act (ε σ α : Type) : Type :=
  σ → Acted ε σ α

namespace Act

variable {ε δ σ τ α β : Type}

/-- Carries an act out from a state. -/
def run (act : Act ε σ α) (s : σ) : Acted ε σ α :=
  act s

instance : Monad (Act ε σ) where
  pure value := fun s => ⟨value, s, []⟩
  bind act next := fun s =>
    let first := act s
    let second := next first.value first.state
    ⟨second.value, second.state, first.trace ++ second.trace⟩

@[ext] theorem ext {a b : Act ε σ α} (h : ∀ s, a.run s = b.run s) : a = b :=
  funext h

@[simp] theorem run_pure (value : α) (s : σ) : (pure value : Act ε σ α).run s = ⟨value, s, []⟩ :=
  rfl

@[simp] theorem run_bind (act : Act ε σ α) (next : α → Act ε σ β) (s : σ) :
    (act >>= next).run s =
      ⟨((next (act.run s).value).run (act.run s).state).value,
        ((next (act.run s).value).run (act.run s).state).state,
        (act.run s).trace ++ ((next (act.run s).value).run (act.run s).state).trace⟩ :=
  rfl

@[simp] theorem run_map (f : α → β) (act : Act ε σ α) (s : σ) :
    (f <$> act).run s = ⟨f (act.run s).value, (act.run s).state, (act.run s).trace⟩ := by
  show Acted.mk (f (act.run s).value) (act.run s).state ((act.run s).trace ++ []) = _
  rw [List.append_nil]

instance : LawfulMonad (Act ε σ) :=
  LawfulMonad.mk' (Act ε σ)
    (fun act => by ext1 s; rw [run_map]; rfl)
    (fun value next => by ext1 s; simp)
    (fun act f g => by ext1 s; simp)

/-- Leaves one event. -/
def emit (event : ε) : Act ε σ Unit :=
  fun s => ⟨(), s, [event]⟩

/-- The state. -/
def get : Act ε σ σ :=
  fun s => ⟨s, s, []⟩

/-- Changes the state. -/
def modify (f : σ → σ) : Act ε σ Unit :=
  fun s => ⟨(), f s, []⟩

/-- A step that leaves no event. -/
def silent (step : σ → α × σ) : Act ε σ α :=
  fun s => ⟨(step s).1, (step s).2, []⟩

/-- The act with its events taken up as events of another kind. -/
def relabel (f : ε → δ) (act : Act ε σ α) : Act δ σ α := fun s =>
  let inner := act s
  ⟨inner.value, inner.state, inner.trace.map f⟩

/-- Carries an act out on a part of the state or on a state made for it, and takes up what it
leaves. -/
def through (enter : σ → τ) (leave : σ → τ → σ) (act : Act ε τ α) : Act ε σ α := fun s =>
  let inner := act (enter s)
  ⟨inner.value, leave s inner.state, inner.trace⟩

@[simp] theorem run_emit (event : ε) (s : σ) : (emit event).run s = ⟨(), s, [event]⟩ := rfl

@[simp] theorem run_get (s : σ) : (get : Act ε σ σ).run s = ⟨s, s, []⟩ := rfl

@[simp] theorem run_modify (f : σ → σ) (s : σ) :
    (modify f : Act ε σ Unit).run s = ⟨(), f s, []⟩ := rfl

@[simp] theorem run_silent (step : σ → α × σ) (s : σ) :
    (silent step : Act ε σ α).run s = ⟨(step s).1, (step s).2, []⟩ := rfl

@[simp] theorem run_relabel (f : ε → δ) (act : Act ε σ α) (s : σ) :
    (act.relabel f).run s =
      ⟨(act.run s).value, (act.run s).state, (act.run s).trace.map f⟩ := rfl

@[simp] theorem run_through (enter : σ → τ) (leave : σ → τ → σ) (act : Act ε τ α) (s : σ) :
    (act.through enter leave).run s =
      ⟨(act.run (enter s)).value, leave s (act.run (enter s)).state, (act.run (enter s)).trace⟩ :=
  rfl

end Act

end StoryEngine

import StoryEngine.Bootstrap.Stories
import StoryEngine.Proofs.Interpreter.Safety

/-!
# Stories one after another

What is left when stories run in a row: each starts where the one before it ended, and the first one
that stops is logged and ends the row. A row of sound stories stops only where a line of one of them
does.
-/

namespace StoryEngine

variable {σ : Type}

/-- What stories share under a dispatcher that has recorded some calls. -/
def Shared.withCalls (shared : Shared σ) (calls : List Call) : Shared (Recorded σ) where
  registry := shared.registry
  client := ⟨shared.client, calls⟩

/-- A story with the variables that are bound in it. -/
structure Handle where
  story : Story
  scope : Scope

namespace Handle

/-- A story with no variables bound. -/
def fresh (story : Story) : Handle := ⟨story, ∅⟩

/-- The state in which the story runs. -/
def enter (handle : Handle) (shared : Shared σ) : RunState σ where
  scope := handle.scope
  registry := shared.registry
  client := shared.client

/-- The handle after a run, with the variables that the run leaves. -/
def after (handle : Handle) (s : RunState σ) : Handle :=
  { handle with scope := s.scope }

end Handle

namespace Bootstrap

/-- Runs a story by itself, with the variables that are bound in it. -/
def runHandle (fuel : Nat) (dispatcher : Dispatcher σ) (handle : Handle) :
    Run (Shared σ) (Option Json) :=
  (Interpreter.runStory fuel dispatcher handle.story).through handle.enter leaveScope

/-- Runs stories one after another, each with the variables that are bound in it, until one
fails. -/
def runHandles (fuel : Nat) (dispatcher : Dispatcher σ) : List Handle → Run (Shared σ) Unit
  | [] => pure ()
  | handle :: rest => ExceptT.mk do
    match ← (runHandle fuel dispatcher handle).run with
    | .ok _ => (runHandles fuel dispatcher rest).run
    | .error stop =>
      logStop handle.story stop
      pure (.error stop)

/-- What stories that run one after another leave bound in them. -/
def handlesAfter (fuel : Nat) (dispatcher : Dispatcher σ) : List Handle → Shared σ → List Handle
  | [], _ => []
  | handle :: rest, shared =>
    let own := (Interpreter.runStory fuel dispatcher handle.story).carryOut (handle.enter shared)
    handle.after own.state ::
      match own.value with
      | .ok _ => handlesAfter fuel dispatcher rest (leaveScope shared own.state)
      | .error _ => rest

/-- The entrypoint stories run with no variables bound. -/
theorem runStories_eq_runHandles (fuel : Nat) (dispatcher : Dispatcher σ) (stories : List Story) :
    runStories fuel dispatcher stories = runHandles fuel dispatcher (stories.map .fresh) := by
  induction stories with
  | nil => rfl
  | cons story rest ih =>
    rw [List.map_cons, runStories, runHandles, ih]
    rfl

/-- The records about a story that stopped. -/
def stopRecords (story : Story) : Stop → List LogRecord
  | .failed error => [storyFailed story error]
  | .outOfFuel => []

/-- A story that stops takes those after it with it; otherwise they start where it ended. -/
theorem carryOut_runHandles_cons (fuel : Nat) (dispatcher : Dispatcher σ) (handle : Handle)
    (rest : List Handle) (shared : Shared σ) :
    let first := (runHandle fuel dispatcher handle).carryOut shared
    (runHandles fuel dispatcher (handle :: rest)).carryOut shared =
      match first.value with
      | .ok _ =>
        let later := (runHandles fuel dispatcher rest).carryOut first.state
        ⟨later.value, later.state, first.trace ++ later.trace⟩
      | .error stop =>
        ⟨.error stop, first.state,
          first.trace ++ (stopRecords handle.story stop).map .logged⟩ := by
  intro first
  show Act.run (do
    match ← (runHandle fuel dispatcher handle).run with
    | .ok _ => (runHandles fuel dispatcher rest).run
    | .error stop =>
      logStop handle.story stop
      pure (.error stop)) shared = _
  rw [Act.run_bind]
  change Acted.mk _ _ _ = match (((runHandle fuel dispatcher handle).run).run shared).value with
    | .ok _ => _
    | .error stop => _
  cases h : (((runHandle fuel dispatcher handle).run).run shared).value with
  | ok value => rfl
  | error stop => cases stop <;> rfl

/-- A story with no variables bound takes those after it with it if it stops; otherwise they start
where it ended. -/
theorem carryOut_runStories_cons (fuel : Nat) (dispatcher : Dispatcher σ) (story : Story)
    (rest : List Story) (shared : Shared σ) :
    let first := (runAlone fuel dispatcher story).carryOut shared
    (runStories fuel dispatcher (story :: rest)).carryOut shared =
      match first.value with
      | .ok _ =>
        let later := (runStories fuel dispatcher rest).carryOut first.state
        ⟨later.value, later.state, first.trace ++ later.trace⟩
      | .error stop =>
        ⟨.error stop, first.state, first.trace ++ (stopRecords story stop).map .logged⟩ := by
  simp only [runStories_eq_runHandles]
  exact carryOut_runHandles_cons fuel dispatcher (.fresh story) (rest.map .fresh) shared

/-- A row of sound stories under a dispatcher that records its calls does what it does under the
plain one. The lines that are called are lines of the stories, and if the row stops, then its last
call stopped in the same way. -/
theorem runStories_recorded (dispatcher : Dispatcher σ) {fuel : Nat} {stories : List Story}
    (hvalid : ∀ story ∈ stories, story.definition.validate story.name = .ok ())
    (hfuel : ∀ story ∈ stories, story.lines.length ≤ fuel) (shared : Shared σ)
    (before : List Call) :
    let left := (runStories fuel dispatcher stories).carryOut shared
    ∃ calls : List Call,
      (runStories fuel dispatcher.recording stories).carryOut (shared.withCalls before) =
        ⟨left.value, left.state.withCalls (before ++ calls), left.trace⟩ ∧
      (∀ call ∈ calls, ∃ story ∈ stories, call.line ∈ story.lines) ∧
      ∀ stop, left.value = .error stop →
        ∃ call, calls.getLast? = some call ∧ call.result = .error stop := by
  induction stories generalizing shared before with
  | nil =>
    refine ⟨[], ?_, (fun call hcall => nomatch hcall), fun stop hstop => ?_⟩
    · rw [List.append_nil]
      rfl
    · simp only [runStories, Run.carryOut_pure] at hstop
      cases hstop
  | cons story rest ih =>
    obtain ⟨calls, hrun, hlines, -, -, hlast⟩ := Interpreter.runStory_callsInOrder
      (hvalid story (List.mem_cons_self ..)) dispatcher (hfuel story (List.mem_cons_self ..))
      (freshScope shared) before
    have hfirst : (runAlone fuel dispatcher.recording story).carryOut (shared.withCalls before) =
        ⟨((runAlone fuel dispatcher story).carryOut shared).value,
          ((runAlone fuel dispatcher story).carryOut shared).state.withCalls (before ++ calls),
          ((runAlone fuel dispatcher story).carryOut shared).trace⟩ := by
      rw [runAlone, Run.carryOut_through]
      rw [show freshScope (shared.withCalls before) = (freshScope shared).withCalls before from rfl,
        hrun]
      rfl
    have hown : ∀ call ∈ calls, ∃ other ∈ story :: rest, call.line ∈ other.lines :=
      fun call hcall => ⟨story, List.mem_cons_self .., hlines call hcall⟩
    rw [carryOut_runStories_cons, carryOut_runStories_cons, hfirst]
    cases hvalue : ((runAlone fuel dispatcher story).carryOut shared).value with
    | error stop =>
      refine ⟨calls, rfl, hown, fun other hother => ?_⟩
      cases hother
      exact hlast stop hvalue
    | ok value =>
      obtain ⟨more, hrest, hmore, hmoreLast⟩ := ih
        (fun other hother => hvalid other (List.mem_cons_of_mem _ hother))
        (fun other hother => hfuel other (List.mem_cons_of_mem _ hother))
        ((runAlone fuel dispatcher story).carryOut shared).state (before ++ calls)
      refine ⟨calls ++ more, ?_, fun call hcall => ?_, fun stop hstop => ?_⟩
      · rw [← List.append_assoc]
        simp only [hrest]
      · rcases List.mem_append.mp hcall with hcall | hcall
        · exact hown call hcall
        · obtain ⟨other, hother, hline⟩ := hmore call hcall
          exact ⟨other, List.mem_cons_of_mem _ hother, hline⟩
      · obtain ⟨call, hcall, hresult⟩ := hmoreLast stop hstop
        refine ⟨call, ?_, hresult⟩
        rw [List.getLast?_append, hcall]
        rfl

end Bootstrap

end StoryEngine

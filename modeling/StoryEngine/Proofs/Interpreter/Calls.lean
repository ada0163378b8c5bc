import StoryEngine.Interpreter.Walk
import StoryEngine.Proofs.Story.Course

/-!
# Calls of a walk

Which lines a walk hands to its dispatcher itself, as opposed to those that the dispatcher hands on
to a walk of its own. The calls are read off a dispatcher that records them. On the course of a
sound story, a walk makes its calls in the order of the course, and only a call can stop it.
-/

namespace StoryEngine

variable {σ α β : Type}

/-- A line that was handed to a dispatcher, and what came back. -/
structure Call where
  line : Line
  result : Except Stop Outcome

/-- The state of a dispatcher and the calls that it took. -/
structure Recorded (σ : Type) where
  client : σ
  calls : List Call

/-- The state of a run under a dispatcher that has recorded some calls. -/
def RunState.withCalls (s : RunState σ) (calls : List Call) : RunState (Recorded σ) where
  scope := s.scope
  registry := s.registry
  client := ⟨s.client, calls⟩

/-- The state of a run without the record of calls. -/
def RunState.withoutCalls (s : RunState (Recorded σ)) : RunState σ where
  scope := s.scope
  registry := s.registry
  client := s.client.client

/-- The dispatcher that does what another one does and records every call with its result. -/
def Dispatcher.recording (dispatcher : Dispatcher σ) : Dispatcher (Recorded σ) := fun story line =>
  ExceptT.mk fun s =>
    let acted := (dispatcher story line).carryOut s.withoutCalls
    { acted with state := acted.state.withCalls (s.client.calls ++ [⟨line, acted.value⟩]) }

/-- A recorded run does what the plain run does; the lines that it calls are some of the given ones
in their order, and it stops only where its last call stopped. -/
def CallsWithin (lines : List Line) (plain : Run (RunState σ) α)
    (recorded : Run (RunState (Recorded σ)) α) : Prop :=
  ∀ (s : RunState σ) (before : List Call), ∃ calls : List Call,
    recorded.carryOut (s.withCalls before) =
      ⟨(plain.carryOut s).value, (plain.carryOut s).state.withCalls (before ++ calls),
        (plain.carryOut s).trace⟩ ∧
    List.Sublist (calls.map Call.line) lines ∧
    ∀ stop, (plain.carryOut s).value = .error stop →
      ∃ call, calls.getLast? = some call ∧ call.result = .error stop

namespace CallsWithin

/-- A run without an act makes no call. -/
theorem pure {lines : List Line} (value : α) :
    CallsWithin (σ := σ) lines (Pure.pure value) (Pure.pure value) := by
  intro s before
  refine ⟨[], ?_, List.nil_sublist lines, ?_⟩
  · simp only [Run.carryOut_pure, List.append_nil]
  · intro stop hstop
    cases hstop

/-- Calls of some lines are calls of more lines. -/
theorem mono {few many : List Line} {plain : Run (RunState σ) α}
    {recorded : Run (RunState (Recorded σ)) α} (h : CallsWithin few plain recorded)
    (hsub : List.Sublist few many) : CallsWithin many plain recorded := by
  intro s before
  obtain ⟨calls, hrun, hcalls, hlast⟩ := h s before
  exact ⟨calls, hrun, hcalls.trans hsub, hlast⟩

/-- A record in front of a run makes no call. -/
theorem log_bind {lines : List Line} {plain : Run (RunState σ) α}
    {recorded : Run (RunState (Recorded σ)) α} (record : LogRecord)
    (h : CallsWithin lines plain recorded) :
    CallsWithin lines (Run.log record >>= fun _ => plain)
      (Run.log record >>= fun _ => recorded) := by
  intro s before
  obtain ⟨calls, hrun, hcalls, hlast⟩ := h s before
  refine ⟨calls, ?_, hcalls, ?_⟩
  · simp only [Run.carryOut_bind, Run.carryOut_log, hrun]
  · intro stop hstop
    simp only [Run.carryOut_bind, Run.carryOut_log] at hstop
    exact hlast stop hstop

/-- A line that is handed to the dispatcher is a call in front of those of the rest of the run. -/
theorem dispatch_bind {dispatcher : Dispatcher σ} {story : Story} {line : Line} {later : List Line}
    {plain : Outcome → Run (RunState σ) α} {recorded : Outcome → Run (RunState (Recorded σ)) α}
    (h : ∀ outcome, CallsWithin later (plain outcome) (recorded outcome)) :
    CallsWithin (line :: later) (Interpreter.dispatch dispatcher story line >>= plain)
      (Interpreter.dispatch dispatcher.recording story line >>= recorded) := by
  intro s before
  have hcall : (dispatcher.recording story line).carryOut (s.withCalls before) =
      ⟨((dispatcher story line).carryOut s).value,
        ((dispatcher story line).carryOut s).state.withCalls
          (before ++ [⟨line, ((dispatcher story line).carryOut s).value⟩]),
        ((dispatcher story line).carryOut s).trace⟩ := rfl
  cases hvalue : ((dispatcher story line).carryOut s).value with
  | error stop =>
    refine ⟨[⟨line, .error stop⟩], ?_, by simp, ?_⟩
    · simp only [Interpreter.dispatch, Run.carryOut_bind, Run.carryOut_emit, hcall, hvalue]
    · intro other hother
      simp only [Interpreter.dispatch, Run.carryOut_bind, Run.carryOut_emit, hvalue] at hother
      cases hother
      exact ⟨_, rfl, rfl⟩
  | ok outcome =>
    obtain ⟨calls, hrun, hcalls, hlast⟩ := h outcome ((dispatcher story line).carryOut s).state
      (before ++ [⟨line, .ok outcome⟩])
    refine ⟨⟨line, .ok outcome⟩ :: calls, ?_, ?_, ?_⟩
    · simp only [Interpreter.dispatch, Run.carryOut_bind, Run.carryOut_emit, hcall, hvalue, hrun,
        List.append_assoc, List.cons_append, List.nil_append]
    · exact hcalls.cons_cons line
    · intro stop hstop
      simp only [Interpreter.dispatch, Run.carryOut_bind, Run.carryOut_emit, hvalue] at hstop
      obtain ⟨call, hcall, hresult⟩ := hlast stop hstop
      refine ⟨call, ?_, hresult⟩
      simp only [List.getLast?_cons, hcall, Option.getD_some]

end CallsWithin

namespace Interpreter

/-- A walk without a line to go to is over. -/
theorem walk_none (dispatcher : Dispatcher σ) (story : Story) (fuel : Nat) :
    walk dispatcher story fuel none = pure none := by
  rw [walk]

/-- A walk of a block without a line to go to is over. -/
theorem walkBlock_none (dispatcher : Dispatcher σ) (story : Story) (owner : Line) (fuel : Nat)
    (last : Outcome) : walkBlock dispatcher story owner fuel last none = pure last := by
  rw [walkBlock]

/-- A walk that finds its line hands it to the dispatcher and goes on from there. -/
theorem walk_of_line {dispatcher : Dispatcher σ} {story : Story} {line : Line} {id : String}
    (hline : story.line id = .ok line) (fuel : Nat) :
    walk dispatcher story (fuel + 1) (some id) = dispatch dispatcher story line >>= fun outcome =>
      match outcome with
      | .returned value => pure value
      | .breakOut => Run.log (strayBreak line) >>= fun _ => pure none
      | .data _ => walk dispatcher story fuel line.successor := by
  rw [walk, hline]
  rfl

/-- A walk that finds no line fails. -/
theorem walk_of_error {dispatcher : Dispatcher σ} {story : Story} {id : String}
    {error : EngineError} (hline : story.line id = .error error) (fuel : Nat) :
    walk dispatcher story (fuel + 1) (some id) = throw (.failed error) := by
  rw [walk, hline]
  rfl

/-- A walk of a block that finds no line fails. -/
theorem walkBlock_of_error {dispatcher : Dispatcher σ} {story : Story} {owner : Line} {id : String}
    {error : EngineError} (hline : story.line id = .error error) (fuel : Nat) (last : Outcome) :
    walkBlock dispatcher story owner (fuel + 1) last (some id) = throw (.failed error) := by
  rw [walkBlock, hline]
  rfl

/-- A walk of a block that finds a line of the block hands it to the dispatcher and goes on from
there. -/
theorem walkBlock_of_line {dispatcher : Dispatcher σ} {story : Story} {owner line : Line}
    {id : String} (hline : story.line id = .ok line) (hparent : line.parent = some owner.ln)
    (fuel : Nat) (last : Outcome) :
    walkBlock dispatcher story owner (fuel + 1) last (some id) =
      dispatch dispatcher story line >>= fun outcome =>
        if outcome.isSentinel then pure outcome
        else walkBlock dispatcher story owner fuel outcome line.successor := by
  rw [walkBlock, hline]
  exact if_pos hparent

/-- A walk of a block ends at a line of another block. -/
theorem walkBlock_of_parent_ne {dispatcher : Dispatcher σ} {story : Story} {owner line : Line}
    {id : String} (hline : story.line id = .ok line) (hparent : line.parent ≠ some owner.ln)
    (fuel : Nat) (last : Outcome) :
    walkBlock dispatcher story owner (fuel + 1) last (some id) = pure last := by
  rw [walkBlock, hline]
  exact if_neg hparent

/-- A walk that stays on some lines calls them in order. -/
theorem walk_callsWithin {story : Story} {lines : List Line} {pointer : Option String}
    (hwalk : WalksOn story.definition.tree lines pointer) (dispatcher : Dispatcher σ) {fuel : Nat}
    (hfuel : lines.length ≤ fuel) :
    CallsWithin lines (walk dispatcher story fuel pointer)
      (walk dispatcher.recording story fuel pointer) := by
  induction hwalk generalizing fuel with
  | nowhere lines =>
    rw [walk_none, walk_none]
    exact .pure none
  | here hfound _ _ _ ih =>
    -- one call, and the rest lies in the later lines
    obtain ⟨fuel, rfl⟩ := Nat.exists_eq_add_one.mpr (Nat.zero_lt_of_lt hfuel)
    have hline := story.line_eq_ok hfound
    rw [walk_of_line hline, walk_of_line hline]
    apply CallsWithin.dispatch_bind
    intro outcome
    cases outcome with
    | data => exact ih (Nat.le_of_succ_le_succ hfuel)
    | breakOut => exact .log_bind _ (.pure none)
    | returned value => exact .pure value
  | @further line later id _ _ ih =>
    exact (ih (Nat.le_of_succ_le hfuel)).mono (List.sublist_cons_self line later)

/-- A walk of a block that stays on some lines calls them in order. -/
theorem walkBlock_callsWithin {story : Story} {lines : List Line} {pointer : Option String}
    (hwalk : WalksOn story.definition.tree lines pointer) (dispatcher : Dispatcher σ)
    (owner : Line) {fuel : Nat} (hfuel : lines.length ≤ fuel) (last : Outcome) :
    CallsWithin lines (walkBlock dispatcher story owner fuel last pointer)
      (walkBlock dispatcher.recording story owner fuel last pointer) := by
  induction hwalk generalizing fuel last with
  | nowhere lines =>
    rw [walkBlock_none, walkBlock_none]
    exact .pure last
  | @here line later hfound _ _ _ ih =>
    obtain ⟨fuel, rfl⟩ := Nat.exists_eq_add_one.mpr (Nat.zero_lt_of_lt hfuel)
    have hline := story.line_eq_ok hfound
    by_cases hparent : line.parent = some owner.ln
    · rw [walkBlock_of_line hline hparent, walkBlock_of_line hline hparent]
      apply CallsWithin.dispatch_bind
      intro outcome
      split
      · exact .pure outcome
      · exact ih (Nat.le_of_succ_le_succ hfuel) outcome
    · rw [walkBlock_of_parent_ne hline hparent, walkBlock_of_parent_ne hline hparent]
      exact .pure last
  | @further line later id _ _ ih =>
    exact (ih (Nat.le_of_succ_le hfuel) last).mono (List.sublist_cons_self line later)

end Interpreter

end StoryEngine

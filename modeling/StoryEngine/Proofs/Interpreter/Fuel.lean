import StoryEngine.Proofs.Interpreter.Along

/-!
# Runs with more fuel

A run that takes fuel does the same with more of it, except that it goes on where its fuel would have
been used up: it outlasts the run with less fuel. What outlasts what is kept by everything that runs
are made of, so that it holds of walks, blocks and loops, also when their dispatchers outlast each
other.
-/

namespace StoryEngine

variable {σ γ α β : Type}

/-- Whether a run that does not use its fuel up leaves what another one leaves. -/
def Prolongs (more run : Run (RunState σ) α) : Prop :=
  ∀ s, (run.carryOut s).value ≠ .error .outOfFuel → more.carryOut s = run.carryOut s

namespace Prolongs

theorem refl (run : Run (RunState σ) α) : Prolongs run run :=
  fun _ _ => rfl

/-- A run that has no fuel is prolonged by every other. -/
theorem outOfFuel (more : Run (RunState σ) α) : Prolongs more (throw .outOfFuel) :=
  fun _ hne => absurd rfl hne

/-- Runs in turn are prolonged one by one. -/
theorem bind {more run : Run (RunState σ) α} {moreNext next : α → Run (RunState σ) β}
    (hrun : Prolongs more run) (hnext : ∀ value, Prolongs (moreNext value) (next value)) :
    Prolongs (more >>= moreNext) (run >>= next) := by
  intro s hne
  rw [Run.carryOut_bind] at hne
  have hfirst : more.carryOut s = run.carryOut s := by
    refine hrun s fun hspent => ?_
    rw [hspent] at hne
    exact hne rfl
  rw [Run.carryOut_bind, Run.carryOut_bind, hfirst]
  cases hvalue : (run.carryOut s).value with
  | error stop => rfl
  | ok value =>
    rw [hvalue] at hne
    simp only [hnext value _ hne]

end Prolongs

/-- Whether a run does what another one does and is not over before it: it leaves the same, unless
the fuel of the other one is used up, and it shows at first what the other one shows. -/
structure Outlasts (more run : Run (RunState σ) α) : Prop where
  prolongs : Prolongs more run
  trace : ∀ s, (run.carryOut s).trace <+: (more.carryOut s).trace

/-- A run shows what its first part shows. -/
theorem Run.trace_prefix_bind (run : Run (RunState σ) α) (next : α → Run (RunState σ) β)
    (s : RunState σ) : (run.carryOut s).trace <+: ((run >>= next).carryOut s).trace := by
  rw [Run.carryOut_bind]
  cases (run.carryOut s).value with
  | ok value => exact List.prefix_append _ _
  | error stop => exact List.prefix_rfl

namespace Outlasts

theorem refl (run : Run (RunState σ) α) : Outlasts run run where
  prolongs := .refl run
  trace _ := List.prefix_rfl

theorem trans {most more run : Run (RunState σ) α} (h : Outlasts most more)
    (hmore : Outlasts more run) : Outlasts most run where
  prolongs s hne := by
    have heq := hmore.prolongs s hne
    rw [h.prolongs s (by rwa [heq]), heq]
  trace s := (hmore.trace s).trans (h.trace s)

/-- A run that has no fuel is outlasted by every other. -/
theorem outOfFuel (more : Run (RunState σ) α) : Outlasts more (throw .outOfFuel) where
  prolongs := .outOfFuel more
  trace _ := List.nil_prefix

/-- Runs in turn are outlasted one by one. -/
theorem bind {more run : Run (RunState σ) α} {moreNext next : α → Run (RunState σ) β}
    (hrun : Outlasts more run) (hnext : ∀ value, Outlasts (moreNext value) (next value)) :
    Outlasts (more >>= moreNext) (run >>= next) where
  prolongs := hrun.prolongs.bind fun value => (hnext value).prolongs
  trace s := by
    cases hvalue : (run.carryOut s).value with
    | error stop =>
      have hleft : ((run >>= next).carryOut s).trace = (run.carryOut s).trace := by
        rw [Run.carryOut_bind, hvalue]
      rw [hleft]
      exact (hrun.trace s).trans (more.trace_prefix_bind moreNext s)
    | ok value =>
      have hsame : more.carryOut s = run.carryOut s := hrun.prolongs s (by rw [hvalue]; nofun)
      rw [Run.carryOut_bind, Run.carryOut_bind, hsame, hvalue]
      exact (List.prefix_append_right_inj _).mpr ((hnext value).trace _)

/-- Passes with a condition are outlasted by passes over a block that outlasts theirs, with more
tests. -/
theorem passesWhile {more block : Run (RunState σ) Outcome} (hblock : Outlasts more block)
    (condition : Interpreter.Condition σ γ) {tests moreTests : Nat} (htests : tests ≤ moreTests)
    (memory : γ) :
    Outlasts (Interpreter.passesWhile more condition moreTests memory)
      (Interpreter.passesWhile block condition tests memory) := by
  induction tests generalizing moreTests memory with
  | zero => exact outOfFuel _
  | succ tests ih =>
    obtain ⟨moreTests, rfl⟩ := Nat.exists_eq_add_one.mpr (Nat.zero_lt_of_lt htests)
    refine bind (refl _) fun (holds, memory) => ?_
    cases holds with
    | false => exact refl _
    | true =>
      refine bind hblock fun outcome => ?_
      split
      · exact refl _
      · exact ih (Nat.le_of_succ_le_succ htests) memory

/-- Passes over a block are outlasted by passes over one that outlasts it. -/
theorem runPasses {more block : Run (RunState σ) Outcome} (hblock : Outlasts more block)
    (owner : Line) (passes : List (Option Json)) :
    Outlasts (StoryEngine.runPasses more owner passes)
      (StoryEngine.runPasses block owner passes) := by
  induction passes with
  | nil => exact refl _
  | cons item? passes ih =>
    refine bind (refl _) fun _ => bind hblock fun outcome => ?_
    cases outcome with
    | data value => exact ih
    | breakOut => exact refl _
    | returned value => exact refl _

section

variable {story : Story} {dispatcher other : Dispatcher σ} {fuel more : Nat}

/-- The walk of a block is outlasted by one with more fuel whose dispatcher outlasts it on the lines
of the story. -/
theorem walkBlock (hfuel : fuel ≤ more)
    (hdispatcher : ∀ id line, story.line id = .ok line →
      Outlasts (other story line) (dispatcher story line))
    (owner : Line) (last : Outcome) (pointer : Option String) :
    Outlasts (Interpreter.walkBlock other story owner more last pointer)
      (Interpreter.walkBlock dispatcher story owner fuel last pointer) := by
  cases pointer with
  | none =>
    rw [Interpreter.walkBlock_none, Interpreter.walkBlock_none]
    exact refl _
  | some id =>
    induction fuel generalizing more last id with
    | zero => exact outOfFuel _
    | succ fuel ih =>
      obtain ⟨more, rfl⟩ := Nat.exists_eq_add_one.mpr (Nat.zero_lt_of_lt hfuel)
      cases hline : story.line id with
      | error error =>
        rw [Interpreter.walkBlock_of_error hline, Interpreter.walkBlock_of_error hline]
        exact refl _
      | ok line =>
        by_cases hparent : line.parent = some owner.ln
        · rw [Interpreter.walkBlock_of_line hline hparent,
            Interpreter.walkBlock_of_line hline hparent]
          refine bind (bind (refl _) fun _ => hdispatcher id line hline) fun outcome => ?_
          split
          · exact refl _
          · cases line.successor with
            | none =>
              rw [Interpreter.walkBlock_none, Interpreter.walkBlock_none]
              exact refl _
            | some successor => exact ih (Nat.le_of_succ_le_succ hfuel) outcome successor
        · rw [Interpreter.walkBlock_of_parent_ne hline hparent,
            Interpreter.walkBlock_of_parent_ne hline hparent]
          exact refl _

/-- So is a block. -/
theorem executeBlock (hfuel : fuel ≤ more)
    (hdispatcher : ∀ id line, story.line id = .ok line →
      Outlasts (other story line) (dispatcher story line)) (owner : Line) :
    Outlasts (Interpreter.executeBlock more other story owner)
      (Interpreter.executeBlock fuel dispatcher story owner) :=
  walkBlock hfuel hdispatcher owner .nothing owner.enter

/-- So is a loop over items. -/
theorem forEach (hfuel : fuel ≤ more)
    (hdispatcher : ∀ id line, story.line id = .ok line →
      Outlasts (other story line) (dispatcher story line)) (owner : Line) (items : List Json) :
    Outlasts (Interpreter.forEach more other story owner items)
      (Interpreter.forEach fuel dispatcher story owner items) := by
  rw [Interpreter.forEach_eq_runPasses, Interpreter.forEach_eq_runPasses]
  exact (executeBlock hfuel hdispatcher owner).runPasses owner _

/-- So is a loop with a condition. -/
theorem loopWhile (hfuel : fuel ≤ more)
    (hdispatcher : ∀ id line, story.line id = .ok line →
      Outlasts (other story line) (dispatcher story line)) (owner : Line)
    (condition : Interpreter.Condition σ γ) (memory : γ) :
    Outlasts (Interpreter.loopWhile more other story owner condition memory)
      (Interpreter.loopWhile fuel dispatcher story owner condition memory) :=
  (executeBlock hfuel hdispatcher owner).passesWhile condition hfuel memory

/-- So is the walk of a story. -/
theorem walk (hfuel : fuel ≤ more)
    (hdispatcher : ∀ id line, story.line id = .ok line →
      Outlasts (other story line) (dispatcher story line)) (pointer : Option String) :
    Outlasts (Interpreter.walk other story more pointer)
      (Interpreter.walk dispatcher story fuel pointer) := by
  cases pointer with
  | none =>
    rw [Interpreter.walk_none, Interpreter.walk_none]
    exact refl _
  | some id =>
    induction fuel generalizing more id with
    | zero => exact outOfFuel _
    | succ fuel ih =>
      obtain ⟨more, rfl⟩ := Nat.exists_eq_add_one.mpr (Nat.zero_lt_of_lt hfuel)
      cases hline : story.line id with
      | error error =>
        rw [Interpreter.walk_of_error hline, Interpreter.walk_of_error hline]
        exact refl _
      | ok line =>
        rw [Interpreter.walk_of_line hline, Interpreter.walk_of_line hline]
        refine bind (bind (refl _) fun _ => hdispatcher id line hline) fun outcome => ?_
        cases outcome with
        | returned | breakOut => exact refl _
        | data =>
          cases line.successor with
          | none =>
            rw [Interpreter.walk_none, Interpreter.walk_none]
            exact refl _
          | some successor => exact ih (Nat.le_of_succ_le_succ hfuel) successor

end

end Outlasts

namespace Prolongs

variable (dispatcher : Dispatcher σ) (story : Story) (owner : Line) (fuel more : Nat)

/-- A loop over items is prolonged by more fuel. -/
theorem forEach (items : List Json) :
    Prolongs (Interpreter.forEach (fuel + more) dispatcher story owner items)
      (Interpreter.forEach fuel dispatcher story owner items) :=
  (Outlasts.forEach (Nat.le_add_right fuel more) (fun _ _ _ => .refl _) owner items).prolongs

/-- A loop with a condition is prolonged by more fuel. -/
theorem loopWhile (condition : Interpreter.Condition σ γ) (memory : γ) :
    Prolongs (Interpreter.loopWhile (fuel + more) dispatcher story owner condition memory)
      (Interpreter.loopWhile fuel dispatcher story owner condition memory) :=
  (Outlasts.loopWhile (Nat.le_add_right fuel more) (fun _ _ _ => .refl _) owner condition
    memory).prolongs

end Prolongs

end StoryEngine

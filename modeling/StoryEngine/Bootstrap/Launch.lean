import StoryEngine.Bootstrap.Plan

/-!
# Launching containers

The starts of a plan begin in the order of the plan. When they finish is up to the container
runtime: one may finish before the next begins, or only when all have begun. No result is looked at
before all have finished. Then the results are looked at in the order of the plan, and the first
failure is the failure of the whole.
-/

namespace StoryEngine

/-- A step of a launch of `n` starts. -/
inductive LaunchStep (n : Nat) where
  /-- The start at a place of the plan begins. -/
  | begin (place : Fin n)
  /-- The start at a place of the plan finishes. -/
  | finish (place : Fin n)
  deriving DecidableEq, Repr

namespace LaunchStep

variable {n : Nat}

/-- The place whose start begins in a step. -/
def begun? : LaunchStep n → Option (Fin n)
  | begin place => some place
  | finish _ => none

/-- The place whose start finishes in a step. -/
def finished? : LaunchStep n → Option (Fin n)
  | begin _ => none
  | finish place => some place

theorem begun?_map_begin (places : List (Fin n)) :
    (places.map begin).filterMap begun? = places := by
  simp [List.filterMap_map, Function.comp_def, begun?]

theorem begun?_map_finish (places : List (Fin n)) :
    (places.map finish).filterMap begun? = [] := by
  simp [List.filterMap_map, begun?]

theorem finished?_map_begin (places : List (Fin n)) :
    (places.map begin).filterMap finished? = [] := by
  simp [List.filterMap_map, finished?]

theorem finished?_map_finish (places : List (Fin n)) :
    (places.map finish).filterMap finished? = places := by
  simp [List.filterMap_map, Function.comp_def, finished?]

end LaunchStep

/-- An order of the steps in a launch of any number of starts. -/
structure Schedule where
  steps : (n : Nat) → List (LaunchStep n)
  /-- Starts begin in the order of the plan. -/
  begins : ∀ n, (steps n).filterMap LaunchStep.begun? = List.finRange n
  /-- Each start finishes once. -/
  finishes : ∀ n, ((steps n).filterMap LaunchStep.finished?).Perm (List.finRange n)
  /-- A start finishes after it began. -/
  ordered : ∀ (n : Nat) (place : Fin n) (before after : List (LaunchStep n)),
    steps n = before ++ .finish place :: after → .begin place ∈ before

namespace Schedule

/-- All starts begin before any of them finishes, and finish in a given order. -/
def whenAllBegan (order : (n : Nat) → List (Fin n))
    (perm : ∀ n, (order n).Perm (List.finRange n)) : Schedule where
  steps n := (List.finRange n).map .begin ++ (order n).map .finish
  begins n := by
    rw [List.filterMap_append, LaunchStep.begun?_map_begin, LaunchStep.begun?_map_finish,
      List.append_nil]
  finishes n := by
    rw [List.filterMap_append, LaunchStep.finished?_map_begin, LaunchStep.finished?_map_finish,
      List.nil_append]
    exact perm n
  ordered n place before after hcut := by
    rcases List.append_eq_append_iff.mp hcut with ⟨_, rfl, -⟩ | ⟨begun, hbegun, hrest⟩
    · simp
    · -- the cut is at the first finish, or it would be among the begins
      cases begun with
      | nil =>
        rw [List.append_nil] at hbegun
        simp [← hbegun]
      | cons step steps =>
        have hmem : step ∈ (List.finRange n).map LaunchStep.begin := by simp [hbegun]
        obtain ⟨_, -, rfl⟩ := List.mem_map.mp hmem
        cases hrest

/-- Starts finish in the order in which they began, after all have begun. -/
def inOrder : Schedule :=
  .whenAllBegan List.finRange fun _ => .refl _

end Schedule

/-- What provides the containers of services. -/
structure ContainerRuntime (κ : Type) where
  /-- Whether the container of a line can be shared with other lines. -/
  isReusable : Story → Line → Bool := Story.isReusableLine
  /-- What a start does when it begins. -/
  begin : Story → Line → κ → κ
  /-- What a start does when it finishes, and its result. -/
  finish : Story → Line → κ → Except EngineError Unit × κ
  /-- When starts begin and finish. -/
  schedule : Schedule := .inOrder

namespace Bootstrap

variable {κ : Type}

/-- The error of a failed result. -/
def failure? : Except EngineError Unit → Option EngineError
  | .ok () => none
  | .error error => some error

/-- Begins a start. -/
def beginStart (runtime : ContainerRuntime κ) (launch : Launch) : Act Event κ Unit := do
  Act.emit (.startBegan (.ofLine launch.story launch.line))
  Act.modify (runtime.begin launch.story launch.line)

/-- Waits for a start. -/
def finishStart (runtime : ContainerRuntime κ) (launch : Launch) :
    Act Event κ (Option EngineError) := do
  let failure := failure? (← Act.silent (runtime.finish launch.story launch.line))
  Act.emit (.startEnded (.ofLine launch.story launch.line) failure)
  pure failure

/-- Carries out the steps of a launch, and gives the failure at each place whose start finishes. -/
def followSteps (runtime : ContainerRuntime κ) (launches : List Launch) :
    List (LaunchStep launches.length) →
      Act Event κ (List (Fin launches.length × Option EngineError))
  | [] => pure []
  | .begin place :: rest => do
    beginStart runtime (launches.get place)
    followSteps runtime launches rest
  | .finish place :: rest => do
    let failure ← finishStart runtime (launches.get place)
    let failures ← followSteps runtime launches rest
    pure ((place, failure) :: failures)

/-- The failure of the earliest place in the plan that failed. -/
def firstFailure? (launches : List Launch)
    (results : List (Fin launches.length × Option EngineError)) : Option (Launch × EngineError) :=
  (List.finRange launches.length).findSome? fun place =>
    ((results.lookup place).join).map fun error => (launches.get place, error)

/-- The record of a failed start. -/
def startFailed (launch : Launch) (error : EngineError) : LogRecord where
  level := .error
  message := "Failed to start service container"
  fields := [
    ("story", .text launch.story.name),
    ("service", .text launch.chain.service),
    ("command", .text launch.chain.command),
    ("error", .text error.message)]

/-- Starts the containers of a plan. -/
def launchAll (runtime : ContainerRuntime κ) (launches : List Launch) :
    Act Event κ (Except EngineError Unit) := do
  let results ← followSteps runtime launches (runtime.schedule.steps launches.length)
  match firstFailure? launches results with
  | none => pure (.ok ())
  | some (launch, error) =>
    Act.emit (.logged (startFailed launch error))
    pure (.error error)

/-- Starts the containers that some stories need. Nothing is started unless every line resolves. -/
def startServices (runtime : ContainerRuntime κ) (stories : List Story) : Run κ Unit :=
  match plan runtime.isReusable stories with
  | .error stop => throw stop
  | .ok launches => Run.ofOutcome (launchAll runtime launches)

end Bootstrap

end StoryEngine

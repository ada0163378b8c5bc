import StoryEngine.Bootstrap.Launch

/-!
# What a launch leaves

A launch follows the steps of a schedule, and each step leaves one event: the starts of the plan
begin in its order, and each leaves its result. Then the failure of the earliest place that failed,
if there is one, is logged and is the result of the launch. So a launch succeeds only if every start
of the plan does.
-/

namespace StoryEngine

namespace Launch

/-- The start that a launch makes. -/
def call (launch : Launch) : StartCall :=
  .ofLine launch.story launch.line

end Launch

namespace Schedule

variable (schedule : Schedule) {n : Nat}

/-- Every start finishes. -/
theorem finish_mem (place : Fin n) : .finish place ∈ schedule.steps n := by
  have hfinished : place ∈ (schedule.steps n).filterMap LaunchStep.finished? :=
    (schedule.finishes n).mem_iff.mpr (List.mem_finRange place)
  obtain ⟨step, hstep, hplace⟩ := List.mem_filterMap.mp hfinished
  cases step with
  | begin _ => cases hplace
  | finish _ =>
    cases hplace
    exact hstep

/-- No start finishes twice. -/
theorem nodup_finished (n : Nat) : ((schedule.steps n).filterMap LaunchStep.finished?).Nodup :=
  (List.nodup_finRange n).perm (schedule.finishes n).symm

end Schedule

namespace Bootstrap

variable {κ : Type}

/-- The failure at a place of a plan according to the results of the starts that have finished. -/
def failureAt? {n : Nat} (results : List (Fin n × Option EngineError)) (place : Fin n) :
    Option EngineError :=
  (results.lookup place).join

/-- The event that a step of a launch leaves if the starts fail as given. -/
def stepEvent (launches : List Launch) (failures : Fin launches.length → Option EngineError) :
    LaunchStep launches.length → Event
  | .begin place => .startBegan (launches.get place).call
  | .finish place => .startEnded (launches.get place).call (failures place)

/-- Steps in which no start finishes twice leave one event each. -/
theorem followSteps_trace (runtime : ContainerRuntime κ) (launches : List Launch)
    {steps : List (LaunchStep launches.length)}
    (honce : (steps.filterMap LaunchStep.finished?).Nodup) (s : κ) :
    ((followSteps runtime launches steps).run s).trace =
      steps.map (stepEvent launches
        (failureAt? ((followSteps runtime launches steps).run s).value)) := by
  induction steps generalizing s with
  | nil => rfl
  | cons step rest ih =>
    cases step with
    | begin place =>
      simp only [followSteps, beginStart, Act.run_bind, Act.run_emit, Act.run_modify,
        List.append_nil, List.singleton_append, List.map_cons]
      rw [ih honce]
      rfl
    | finish place =>
      obtain ⟨hfirst, hrest⟩ := List.nodup_cons.mp honce
      simp only [followSteps, finishStart, Act.run_bind, Act.run_silent, Act.run_emit,
        Act.run_pure, List.append_nil, List.nil_append, List.singleton_append, List.map_cons]
      rw [ih hrest]
      congr 1
      · simp [stepEvent, failureAt?, Launch.call]
      · -- the result of this place does not hide the results of the places after it
        refine List.map_congr_left fun step hstep => ?_
        cases step with
        | begin _ => rfl
        | finish later =>
          have hne : later ≠ place := by
            rintro rfl
            exact hfirst (List.mem_filterMap.mpr ⟨_, hstep, rfl⟩)
          simp only [stepEvent, failureAt?, List.lookup_cons, beq_false_of_ne hne]

/-- A plan has no failure if no place of it has one. -/
theorem firstFailure?_eq_none_iff {launches : List Launch}
    {results : List (Fin launches.length × Option EngineError)} :
    firstFailure? launches results = none ↔ ∀ place, failureAt? results place = none := by
  simp [firstFailure?, failureAt?]

/-- The failure of a plan is that of the earliest place that has one. -/
theorem firstFailure?_eq_some_iff {launches : List Launch}
    {results : List (Fin launches.length × Option EngineError)} {failed : Launch × EngineError} :
    firstFailure? launches results = some failed ↔
      ∃ place, failed.1 = launches.get place ∧ failureAt? results place = some failed.2 ∧
        ∀ earlier < place, failureAt? results earlier = none := by
  rw [firstFailure?, List.findSome?_eq_some_iff]
  constructor
  · rintro ⟨before, place, after, hcut, hfailed, hbefore⟩
    obtain ⟨error, herror, rfl⟩ := Option.map_eq_some_iff.mp hfailed
    refine ⟨place, rfl, herror, fun earlier hearlier => ?_⟩
    have hsorted := List.pairwise_lt_finRange launches.length
    have hmem := List.mem_finRange earlier
    rw [hcut] at hsorted hmem
    rcases List.mem_append.mp hmem with hmem | hmem
    · exact Option.map_eq_none_iff.mp (hbefore earlier hmem)
    · -- a place from the failed one on is no earlier one
      obtain ⟨-, hafter, -⟩ := List.pairwise_append.mp hsorted
      rcases List.mem_cons.mp hmem with rfl | hmem
      · exact absurd hearlier (Nat.lt_irrefl _)
      · exact absurd hearlier (Nat.lt_asymm (List.rel_of_pairwise_cons hafter hmem))
  · rintro ⟨place, hlaunch, herror, hearlier⟩
    obtain ⟨before, after, hcut⟩ := List.append_of_mem (List.mem_finRange place)
    refine ⟨before, place, after, hcut, ?_, fun earlier hmem => ?_⟩
    · rw [failureAt?] at herror
      rw [herror, Option.map_some, ← hlaunch]
    · have hsorted := List.pairwise_lt_finRange launches.length
      rw [hcut] at hsorted
      obtain ⟨-, -, hbefore⟩ := List.pairwise_append.mp hsorted
      exact Option.map_eq_none_iff.mpr
        (hearlier earlier (hbefore earlier hmem place (List.mem_cons_self ..)))

/-- The results of a launch, place by place, in the order in which the starts finish. -/
def launchResults (runtime : ContainerRuntime κ) (launches : List Launch) (s : κ) :
    List (Fin launches.length × Option EngineError) :=
  ((followSteps runtime launches (runtime.schedule.steps launches.length)).run s).value

/-- A launch ends with the failure of the earliest place that failed. -/
theorem launchAll_value (runtime : ContainerRuntime κ) (launches : List Launch) (s : κ) :
    ((launchAll runtime launches).run s).value =
      match firstFailure? launches (launchResults runtime launches s) with
      | none => .ok ()
      | some failed => .error failed.2 := by
  simp only [launchAll, Act.run_bind]
  rw [← launchResults]
  cases firstFailure? launches (launchResults runtime launches s) with
  | none => rfl
  | some failed => rfl

/-- A launch leaves the events of its steps, and then the record of the failure with which it
ends. -/
theorem launchAll_trace (runtime : ContainerRuntime κ) (launches : List Launch) (s : κ) :
    ((launchAll runtime launches).run s).trace =
      (runtime.schedule.steps launches.length).map
          (stepEvent launches (failureAt? (launchResults runtime launches s))) ++
        ((firstFailure? launches (launchResults runtime launches s)).map fun failed =>
          .logged (startFailed failed.1 failed.2)).toList := by
  simp only [launchAll, Act.run_bind]
  rw [followSteps_trace runtime launches (runtime.schedule.nodup_finished _), ← launchResults]
  cases firstFailure? launches (launchResults runtime launches s) with
  | none => rfl
  | some failed => rfl

/-- A launch succeeds if every start of its plan does. -/
theorem launchAll_eq_ok_iff {runtime : ContainerRuntime κ} {launches : List Launch} {s : κ} :
    ((launchAll runtime launches).run s).value = .ok () ↔
      ∀ place, failureAt? (launchResults runtime launches s) place = none := by
  rw [launchAll_value, ← firstFailure?_eq_none_iff]
  cases firstFailure? launches (launchResults runtime launches s) with
  | none => simp
  | some failed => simp

/-- The events of some steps begin the starts that the steps begin. -/
theorem starts_map_stepEvent {launches : List Launch}
    {failures : Fin launches.length → Option EngineError}
    (steps : List (LaunchStep launches.length)) :
    Trace.starts (steps.map (stepEvent launches failures)) =
      (steps.filterMap LaunchStep.begun?).map fun place => (launches.get place).call := by
  rw [Trace.starts, List.filterMap_map, List.map_filterMap]
  refine congrArg (List.filterMap · steps) (funext fun step => ?_)
  cases step <;> rfl

/-- The starts of a launch are those of its plan, in the order of the plan. -/
theorem starts_launchAll (runtime : ContainerRuntime κ) (launches : List Launch) (s : κ) :
    Trace.starts ((launchAll runtime launches).run s).trace = launches.map Launch.call := by
  have hlog : Trace.starts ((firstFailure? launches (launchResults runtime launches s)).map
      fun failed => Event.logged (startFailed failed.1 failed.2)).toList = [] := by
    cases firstFailure? launches (launchResults runtime launches s) with
    | none => rfl
    | some failed => rfl
  rw [launchAll_trace, Trace.starts_append, starts_map_stepEvent, hlog, List.append_nil,
    Schedule.begins]
  exact List.ext_getElem (by simp) (by simp)

/-- A launch began exactly the starts of its plan. -/
theorem startBegan_mem_launchAll_iff {runtime : ContainerRuntime κ} {launches : List Launch}
    {s : κ} {call : StartCall} :
    .startBegan call ∈ ((launchAll runtime launches).run s).trace ↔
      ∃ launch ∈ launches, launch.call = call := by
  rw [← Trace.mem_starts, starts_launchAll, List.mem_map]

/-- A launch that succeeds saw every start of its plan succeed. -/
theorem startEnded_mem_launchAll {runtime : ContainerRuntime κ} {launches : List Launch} {s : κ}
    (hok : ((launchAll runtime launches).run s).value = .ok ()) {launch : Launch}
    (hlaunch : launch ∈ launches) :
    .startEnded launch.call none ∈ ((launchAll runtime launches).run s).trace := by
  obtain ⟨place, rfl⟩ := List.get_of_mem hlaunch
  rw [launchAll_trace]
  refine List.mem_append_left _ (List.mem_map.mpr ⟨_, runtime.schedule.finish_mem place, ?_⟩)
  rw [stepEvent, launchAll_eq_ok_iff.mp hok place]

/-- Without a plan nothing is started. -/
theorem startServices_of_plan_eq_error {runtime : ContainerRuntime κ} {stories : List Story}
    {stop : Stop} (hplan : plan runtime.isReusable stories = .error stop) (s : κ) :
    (startServices runtime stories).carryOut s = ⟨.error stop, s, []⟩ := by
  rw [startServices, hplan, Run.carryOut_throw]

/-- With a plan, starting the services is the launch of the plan. -/
theorem startServices_of_plan_eq_ok {runtime : ContainerRuntime κ} {stories : List Story}
    {launches : List Launch} (hplan : plan runtime.isReusable stories = .ok launches) (s : κ) :
    (startServices runtime stories).carryOut s =
      ⟨((launchAll runtime launches).run s).value.mapError .failed,
        ((launchAll runtime launches).run s).state,
        ((launchAll runtime launches).run s).trace⟩ := by
  simp only [startServices, hplan, Run.ofOutcome, Run.carryOut_bind, Run.carryOut_ofAct]
  cases ((launchAll runtime launches).run s).value with
  | error error =>
    simp only [Run.carryOut_ofExcept_error, List.append_nil]
    rfl
  | ok _ =>
    simp only [Run.carryOut_ofExcept_ok, List.append_nil]
    rfl

end Bootstrap

end StoryEngine

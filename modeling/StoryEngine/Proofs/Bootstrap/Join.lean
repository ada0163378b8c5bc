import StoryEngine.Proofs.App.Stories
import StoryEngine.Proofs.Bootstrap.Requests

/-!
# Waiting for all starts

A launch waits for all of its starts, whichever of them fail and in whatever order they finish, and
the failure that it reports is that of the earliest place in the plan, not the one that happened
first. The order of the plan is the same however the stories of an application were put together.
-/

namespace StoryEngine

variable {σ κ η : Type}

namespace Trace

/-- The container starts that finished, each with its error if it failed. -/
def ends (trace : Trace) : List (StartCall × Option EngineError) :=
  trace.filterMap fun
    | .startEnded call failure => some (call, failure)
    | _ => none

@[simp] theorem ends_append (a b : Trace) : ends (a ++ b) = ends a ++ ends b :=
  List.filterMap_append

/-- An event changes how many starts are in flight if it begins or ends one. -/
theorem inFlightAfter_eq (now : Nat) (event : Event) :
    inFlightAfter now event = now + (starts [event]).length - (ends [event]).length := by
  cases event <;> rfl

/-- If at no time more starts have finished than have begun, those are in flight at the end that
have begun and not finished. -/
theorem foldl_inFlightAfter {trace : Trace} {now : Nat}
    (hbalance : ∀ before after, trace = before ++ after →
      (ends before).length ≤ now + (starts before).length) :
    trace.foldl inFlightAfter now + (ends trace).length = now + (starts trace).length := by
  induction trace generalizing now with
  | nil => rfl
  | cons event rest ih =>
    have hstarts (later : Trace) : starts (event :: later) = starts [event] ++ starts later :=
      starts_append [event] later
    have hends (later : Trace) : ends (event :: later) = ends [event] ++ ends later :=
      ends_append [event] later
    have hfirst := hbalance [event] rest rfl
    have hnow := inFlightAfter_eq now event
    have hrest := @ih (inFlightAfter now event) fun before after hcut => by
      have hbefore := hbalance (event :: before) after (by rw [hcut]; rfl)
      rw [hstarts, hends, List.length_append, List.length_append] at hbefore
      omega
    rw [List.foldl_cons, hstarts, hends, List.length_append, List.length_append]
    omega

end Trace

namespace Schedule

variable (schedule : Schedule) {n : Nat}

/-- At any time the starts that have finished are among those that have begun. -/
theorem length_finished_le {before after : List (LaunchStep n)}
    (hcut : schedule.steps n = before ++ after) :
    (before.filterMap LaunchStep.finished?).length ≤
      (before.filterMap LaunchStep.begun?).length := by
  have hnodup : (before.filterMap LaunchStep.finished?).Nodup := by
    have hall := schedule.nodup_finished n
    rw [hcut, List.filterMap_append] at hall
    exact (List.nodup_append.mp hall).1
  refine hnodup.length_le_of_subset fun place hplace => ?_
  obtain ⟨step, hstep, hfinished⟩ := List.mem_filterMap.mp hplace
  cases step with
  | begin _ => cases hfinished
  | finish _ =>
    cases hfinished
    obtain ⟨first, rest, rfl⟩ := List.append_of_mem hstep
    have hbegan := schedule.ordered n place first (rest ++ after) (by simpa using hcut)
    exact List.mem_filterMap.mpr ⟨_, List.mem_append_left _ hbegan, rfl⟩

end Schedule

namespace Bootstrap

variable {launches : List Launch} {failures : Fin launches.length → Option EngineError}

/-- The events of some steps end the starts that the steps finish, with their failures. -/
theorem ends_map_stepEvent (steps : List (LaunchStep launches.length)) :
    Trace.ends (steps.map (stepEvent launches failures)) =
      (steps.filterMap LaunchStep.finished?).map fun place =>
        ((launches.get place).call, failures place) := by
  rw [Trace.ends, List.filterMap_map, List.map_filterMap]
  refine congrArg (List.filterMap · steps) (funext fun step => ?_)
  cases step <;> rfl

/-- When a schedule has been followed, no start is in flight. -/
theorem inFlight_map_stepEvent (schedule : Schedule) :
    Trace.inFlight ((schedule.steps launches.length).map (stepEvent launches failures)) = 0 := by
  have hcount := @Trace.foldl_inFlightAfter
    ((schedule.steps launches.length).map (stepEvent launches failures)) 0
    fun before after hcut => by
      obtain ⟨first, rest, hsteps, rfl, -⟩ := List.map_eq_append_iff.mp hcut
      rw [starts_map_stepEvent, ends_map_stepEvent, List.length_map, List.length_map]
      have hle := schedule.length_finished_le hsteps
      omega
  rw [starts_map_stepEvent, ends_map_stepEvent, List.length_map, List.length_map,
    schedule.begins, (schedule.finishes _).length_eq] at hcount
  rw [Trace.inFlight]
  omega

/-- What a launch of a plan leaves if it follows a schedule and its starts fail as given: all of
them have been waited for, and the failure of the earliest place that failed is that of the
whole. -/
structure Joins (launches : List Launch) (schedule : Schedule)
    (failures : Fin launches.length → Option EngineError)
    (left : Acted Event κ (Except Stop Unit)) : Prop where
  /-- The starts begin and finish as scheduled, and nothing is logged before all have finished. -/
  waits : left.trace = (schedule.steps launches.length).map (stepEvent launches failures) ++
    (Trace.logs left.trace).map .logged
  /-- Every start begins, in the order of the plan. -/
  begins : Trace.starts left.trace = launches.map Launch.call
  /-- Every start finishes once, and fails or succeeds by itself. -/
  finishes : (Trace.ends left.trace).Perm ((List.finRange launches.length).map fun place =>
    ((launches.get place).call, failures place))
  /-- No start is in flight at the end. -/
  inFlight : Trace.inFlight left.trace = 0
  /-- The launch succeeds if every start does. -/
  success : left.value = .ok () ↔ ∀ place, failures place = none
  /-- A launch that succeeds logs nothing. -/
  silent : (∀ place, failures place = none) → Trace.logs left.trace = []
  /-- The failure of the earliest place that failed is that of the launch, and is logged once, as an
  error. -/
  failure : ∀ place error, failures place = some error →
    (∀ earlier < place, failures earlier = none) →
      left.value = .error (.failed error) ∧
        Trace.logs left.trace = [startFailed (launches.get place) error] ∧
        (startFailed (launches.get place) error).level = .error

/-- The events of steps hold no log records. -/
theorem logs_map_stepEvent (steps : List (LaunchStep launches.length)) :
    Trace.logs (steps.map (stepEvent launches failures)) = [] := by
  refine Trace.filterMap_map_eq_nil (fun step => ?_) steps
  cases step <;> rfl

/-- Records leave what is in flight as it is. -/
theorem inFlight_append_logged (trace : Trace) (records : List LogRecord) :
    Trace.inFlight (trace ++ records.map .logged) = Trace.inFlight trace := by
  rw [Trace.inFlight, List.foldl_append, ← Trace.inFlight]
  induction records with
  | nil => rfl
  | cons record rest ih => exact ih

/-- Records end no start. -/
theorem ends_map_logged (records : List LogRecord) : Trace.ends (records.map .logged) = [] :=
  Trace.filterMap_map_eq_nil (fun _ => rfl) records

/-- What a launch logs. -/
def launchReport (runtime : ContainerRuntime κ) (launches : List Launch) (s : κ) : List LogRecord :=
  ((firstFailure? launches (launchResults runtime launches s)).map fun failed =>
    startFailed failed.1 failed.2).toList

/-- With a plan, starting the services leaves the events of the steps, and then the report. -/
theorem startServices_trace {runtime : ContainerRuntime κ} {stories : List Story}
    (hplan : plan runtime.isReusable stories = .ok launches) (s : κ) :
    ((startServices runtime stories).carryOut s).trace =
      (runtime.schedule.steps launches.length).map
          (stepEvent launches (failureAt? (launchResults runtime launches s))) ++
        (launchReport runtime launches s).map .logged := by
  rw [startServices_of_plan_eq_ok hplan, launchAll_trace, launchReport]
  cases firstFailure? launches (launchResults runtime launches s) with
  | none => rfl
  | some failed => rfl

/-- Starting the services of some stories with a plan waits for all of its starts. -/
theorem joins_startServices {runtime : ContainerRuntime κ} {stories : List Story}
    (hplan : plan runtime.isReusable stories = .ok launches) (s : κ) :
    Joins launches runtime.schedule (failureAt? (launchResults runtime launches s))
      ((startServices runtime stories).carryOut s) := by
  have htrace := startServices_trace hplan s
  have hlogs : Trace.logs ((startServices runtime stories).carryOut s).trace =
      launchReport runtime launches s := by
    rw [htrace, Trace.logs_append, logs_map_stepEvent, List.nil_append, Trace.logs,
      List.filterMap_map]
    exact List.filterMap_some
  have hvalue : ((startServices runtime stories).carryOut s).value =
      ((launchAll runtime launches).run s).value.mapError .failed := by
    rw [startServices_of_plan_eq_ok hplan]
  constructor
  case begins =>
    rw [startServices_of_plan_eq_ok hplan]
    exact starts_launchAll runtime launches s
  case finishes =>
    rw [htrace, Trace.ends_append, ends_map_stepEvent, ends_map_logged, List.append_nil]
    exact (runtime.schedule.finishes _).map _
  case waits =>
    rw [hlogs]
    exact htrace
  case inFlight => rw [htrace, inFlight_append_logged, inFlight_map_stepEvent]
  case success => rw [hvalue, mapError_eq_ok, launchAll_eq_ok_iff]
  case silent =>
    intro hnone
    rw [hlogs, launchReport, firstFailure?_eq_none_iff.mpr hnone]
    rfl
  case failure =>
    intro place error hplace hearlier
    have hfirst : firstFailure? launches (launchResults runtime launches s) =
        some (launches.get place, error) :=
      firstFailure?_eq_some_iff.mpr ⟨place, rfl, hplace, hearlier⟩
    refine ⟨?_, ?_, rfl⟩
    · rw [hvalue, launchAll_value, hfirst]
      rfl
    · rw [hlogs, launchReport, hfirst]
      rfl

end Bootstrap

end StoryEngine

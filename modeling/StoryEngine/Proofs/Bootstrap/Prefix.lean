import StoryEngine.Proofs.Bootstrap.Stories
import StoryEngine.Proofs.Interpreter.Endings

/-!
# An ordered prefix of the stories

Stories run in the order in which they are listed, each from its first line and where the one before
it left the application. A story that returns or breaks is over, and the next one follows; a story
that fails is the last one that runs. What can be seen of the whole is what can be seen of the
stories that ran, and after them one error that names the story that failed.
-/

namespace StoryEngine.Bootstrap

variable {σ : Type}

/-- The run of a story: the state before it, the lines that it handed to the dispatcher itself, and
what it left. -/
structure StoryRun (σ : Type) where
  handle : Handle
  before : RunState σ
  handed : List (Handed σ)
  left : Acted Event (RunState σ) (Except Stop (Option Json))

namespace StoryRun

/-- The story that runs. -/
def story (run : StoryRun σ) : Story :=
  run.handle.story

/-- The story with the variables that the run leaves. -/
def after (run : StoryRun σ) : Handle :=
  run.handle.after run.left.state

/-- Whether the story came to its end. -/
def Completes (run : StoryRun σ) : Prop :=
  ∃ value, run.left.value = .ok value

/-- What is logged about the story if it stops. -/
def records (run : StoryRun σ) : List LogRecord :=
  match run.left.value with
  | .ok _ => []
  | .error stop => stopRecords run.story stop

/-- The errors that the dispatcher logged. -/
def dispatcherErrors (run : StoryRun σ) : List LogRecord :=
  run.handed.flatMap fun one => Trace.errors one.left.trace

/-- Whether a run is that of its story by itself, from its first line, in what the stories before it
left. -/
structure Due (fuel : Nat) (dispatcher : Dispatcher σ) (shared : Shared σ) (run : StoryRun σ) :
    Prop where
  before : run.before = run.handle.enter shared
  left : (Interpreter.runStory fuel dispatcher run.story).carryOut run.before = run.left
  walked : Walked dispatcher run.story fuel run.story.firstLine run.before run.handed run.left

end StoryRun

/-- Whether runs follow each other from what the stories share at first to what they leave. -/
def InTurn (fuel : Nat) (dispatcher : Dispatcher σ) :
    Shared σ → List (StoryRun σ) → Shared σ → Prop
  | shared, [], final => shared = final
  | shared, run :: later, final =>
    run.Due fuel dispatcher shared ∧
      InTurn fuel dispatcher (leaveScope shared run.left.state) later final

/-- How runs conclude a list of stories: with all of them, if none stopped, or with one that
stopped. -/
def Concludes (handles : List Handle) (runs : List (StoryRun σ)) : Except Stop Unit → Prop
  | .ok _ => runs.map StoryRun.handle = handles ∧ ∀ run ∈ runs, run.Completes
  | .error stop => ∃ earlier last, runs = earlier ++ [last] ∧ (∀ run ∈ earlier, run.Completes) ∧
      last.left.value = .error stop

/-- A run that came to its end in front of others leaves the conclusion to them. -/
theorem Concludes.cons {handles : List Handle} {runs : List (StoryRun σ)} {value : Except Stop Unit}
    {run : StoryRun σ} (hrun : run.Completes) (h : Concludes handles runs value) :
    Concludes (run.handle :: handles) (run :: runs) value := by
  cases value with
  | ok _ =>
    obtain ⟨hall, hcomplete⟩ := h
    exact ⟨by rw [List.map_cons, hall], List.forall_mem_cons.mpr ⟨hrun, hcomplete⟩⟩
  | error stop =>
    obtain ⟨earlier, last, rfl, hcomplete, hstop⟩ := h
    exact ⟨run :: earlier, last, rfl, List.forall_mem_cons.mpr ⟨hrun, hcomplete⟩, hstop⟩

/-- Stories that run one after another are runs that follow each other. -/
theorem exists_runs (fuel : Nat) (dispatcher : Dispatcher σ) (handles : List Handle)
    (shared : Shared σ) :
    let left := (runHandles fuel dispatcher handles).carryOut shared
    ∃ runs : List (StoryRun σ), runs.map StoryRun.handle <+: handles ∧
      InTurn fuel dispatcher shared runs left.state ∧ Concludes handles runs left.value ∧
      (left.trace = runs.flatMap fun run => run.left.trace ++ run.records.map .logged) ∧
      handlesAfter fuel dispatcher handles shared =
        runs.map StoryRun.after ++ handles.drop runs.length := by
  induction handles generalizing shared with
  | nil => exact ⟨[], List.nil_prefix, rfl, ⟨rfl, List.forall_mem_nil _⟩, rfl, rfl⟩
  | cons handle rest ih =>
    let own := (Interpreter.runStory fuel dispatcher handle.story).carryOut (handle.enter shared)
    obtain ⟨handed, hwalked⟩ := Interpreter.exists_walked dispatcher handle.story fuel
      handle.story.firstLine (handle.enter shared)
    let run : StoryRun σ := ⟨handle, handle.enter shared, handed, own⟩
    have hdue : run.Due fuel dispatcher shared := ⟨rfl, rfl, hwalked⟩
    have hfirst : (runHandle fuel dispatcher handle).carryOut shared =
        ⟨own.value, leaveScope shared own.state, own.trace⟩ := rfl
    rw [carryOut_runHandles_cons, hfirst, handlesAfter]
    cases hvalue : own.value with
    | error stop =>
      have hrecords : run.records = stopRecords handle.story stop := by
        simp only [StoryRun.records, run, hvalue, StoryRun.story]
      refine ⟨[run], ?_, ⟨hdue, rfl⟩, ⟨[], run, rfl, List.forall_mem_nil _, hvalue⟩, ?_, rfl⟩
      · exact ⟨rest, rfl⟩
      · rw [List.flatMap_singleton, hrecords]
    | ok value =>
      obtain ⟨runs, hprefix, hturn, hconcludes, htrace, hafter⟩ :=
        ih (leaveScope shared own.state)
      have hrecords : run.records = [] := by
        simp only [StoryRun.records, run, hvalue]
      refine ⟨run :: runs, ?_, ⟨hdue, hturn⟩, ?_, ?_, ?_⟩
      · exact List.prefix_cons_inj handle |>.mpr hprefix
      · exact Concludes.cons ⟨value, hvalue⟩ hconcludes
      · rw [List.flatMap_cons, hrecords, ← htrace]
        simp only [List.map_nil, List.append_nil, run]
      · exact congrArg (run.after :: ·) hafter

section

variable {fuel : Nat} {dispatcher : Dispatcher σ} {shared final : Shared σ}
  {handles : List Handle} {runs : List (StoryRun σ)}

/-- Each of some runs that follow each other is that of its story. -/
theorem InTurn.exists_due (h : InTurn fuel dispatcher shared runs final) {run : StoryRun σ}
    (hrun : run ∈ runs) : ∃ before, run.Due fuel dispatcher before := by
  induction runs generalizing shared with
  | nil => cases hrun
  | cons first later ih =>
    obtain ⟨hdue, hlater⟩ := h
    rcases List.mem_cons.mp hrun with rfl | hrun
    · exact ⟨shared, hdue⟩
    · exact ih hlater hrun

/-- Nothing is logged about a story that came to its end. -/
theorem StoryRun.Completes.records_eq_nil {run : StoryRun σ} (h : run.Completes) :
    run.records = [] := by
  obtain ⟨value, hvalue⟩ := h
  rw [records, hvalue]

/-- What is logged about a story that stops are errors. -/
theorem errors_records (run : StoryRun σ) :
    Trace.errors (run.records.map .logged) = run.records := by
  unfold StoryRun.records
  split
  · rfl
  · rename_i stop _
    cases stop <;> rfl

/-- The errors of some runs are those that the dispatcher logged, and those about a stop. -/
theorem errors_flatMap (hdue : ∀ run ∈ runs, ∃ before, run.Due fuel dispatcher before) :
    Trace.errors (runs.flatMap fun run => run.left.trace ++ run.records.map .logged) =
      runs.flatMap fun run => run.dispatcherErrors ++ run.records := by
  induction runs with
  | nil => rfl
  | cons run later ih =>
    obtain ⟨⟨_, hrun⟩, hlater⟩ := List.forall_mem_cons.mp hdue
    rw [List.flatMap_cons, List.flatMap_cons, Trace.errors_append, Trace.errors_append, ih hlater,
      hrun.walked.errors_eq, errors_records, StoryRun.dispatcherErrors]

/-- The dispatches of some runs are those of each of them. -/
theorem dispatches_flatMap (runs : List (StoryRun σ)) :
    Trace.dispatches (runs.flatMap fun run => run.left.trace ++ run.records.map .logged) =
      runs.flatMap fun run => Trace.dispatches run.left.trace := by
  have hrecords (run : StoryRun σ) : Trace.dispatches (run.records.map .logged) = [] :=
    Trace.filterMap_map_eq_nil (fun _ => rfl) run.records
  have hown (run : StoryRun σ) : Trace.dispatches (run.left.trace ++ run.records.map .logged) =
      Trace.dispatches run.left.trace := by
    rw [Trace.dispatches_append, hrecords, List.append_nil]
  calc
    _ = runs.flatMap fun run =>
        Trace.dispatches (run.left.trace ++ run.records.map .logged) := List.filterMap_flatMap
    _ = _ := by simp only [hown]

/-- Of stories that came to their ends, only the dispatcher logs errors. -/
theorem flatMap_errors_of_complete (hcomplete : ∀ run ∈ runs, run.Completes) :
    (runs.flatMap fun run => run.dispatcherErrors ++ run.records) =
      runs.flatMap StoryRun.dispatcherErrors := by
  rw [List.flatMap_def, List.flatMap_def]
  congr 1
  refine List.map_congr_left fun run hrun => ?_
  rw [(hcomplete run hrun).records_eq_nil, List.append_nil]

/-- All runs but the last come to their ends. -/
theorem Concludes.complete {value : Except Stop Unit} (h : Concludes handles runs value) :
    ∀ run ∈ runs.dropLast, run.Completes := by
  intro run hrun
  cases value with
  | ok _ => exact h.2 run (List.dropLast_subset runs hrun)
  | error stop =>
    obtain ⟨earlier, last, rfl, hcomplete, -⟩ := h
    rw [List.dropLast_concat] at hrun
    exact hcomplete run hrun

/-- Runs conclude a list with success if they are all of it and come to their ends. -/
theorem Concludes.succeeded {value : Except Stop Unit} (h : Concludes handles runs value) :
    value = .ok () ↔ runs.map StoryRun.handle = handles ∧ ∀ run ∈ runs, run.Completes := by
  cases value with
  | ok _ => exact iff_of_true rfl h
  | error stop =>
    obtain ⟨earlier, last, rfl, -, hstop⟩ := h
    refine iff_of_false nofun fun hall => ?_
    obtain ⟨value, hvalue⟩ := hall.2 last (List.mem_append_right earlier (List.mem_singleton_self _))
    cases hvalue.symm.trans hstop

/-- Runs conclude a list with the stop of the last of them. -/
theorem Concludes.stopped {value : Except Stop Unit} (h : Concludes handles runs value)
    (stop : Stop) :
    value = .error stop ↔ ∃ run, runs.getLast? = some run ∧ run.left.value = .error stop := by
  cases value with
  | ok _ =>
    refine iff_of_false nofun ?_
    rintro ⟨run, hlast, hstop⟩
    obtain ⟨value, hvalue⟩ := h.2 run (List.mem_of_getLast? hlast)
    cases hvalue.symm.trans hstop
  | error other =>
    obtain ⟨earlier, last, rfl, -, hstop⟩ := h
    rw [List.getLast?_concat]
    constructor
    · rintro ⟨⟩
      exact ⟨last, rfl, hstop⟩
    · rintro ⟨_, ⟨⟩, hother⟩
      cases hstop.symm.trans hother
      rfl

/-- The error that is logged about a list names the last story of it that ran. -/
theorem Concludes.report {error : EngineError}
    (h : Concludes handles runs (.error (.failed error))) :
    ∃ run, runs.getLast? = some run ∧
      (runs.flatMap fun run => run.dispatcherErrors ++ run.records) =
        runs.flatMap StoryRun.dispatcherErrors ++ [storyFailed run.story error] := by
  obtain ⟨earlier, last, rfl, hcomplete, hstop⟩ := h
  have hrecords : last.records = [storyFailed last.story error] := by
    rw [StoryRun.records, hstop]
    rfl
  refine ⟨last, List.getLast?_concat, ?_⟩
  rw [List.flatMap_append, List.flatMap_append, flatMap_errors_of_complete hcomplete,
    List.flatMap_singleton, List.flatMap_singleton, hrecords, List.append_assoc]

/-- What stories that do not use their fuel up leave stays the same with more fuel. -/
theorem carryOut_runHandles_more (more : Nat)
    (henough : ((runHandles fuel dispatcher handles).carryOut shared).value ≠ .error .outOfFuel) :
    (runHandles (fuel + more) dispatcher handles).carryOut shared =
      (runHandles fuel dispatcher handles).carryOut shared := by
  induction handles generalizing shared with
  | nil => rfl
  | cons handle rest ih =>
    obtain ⟨handed, hwalked⟩ := Interpreter.exists_walked dispatcher handle.story fuel
      handle.story.firstLine (handle.enter shared)
    have hown (hne : ((runHandle fuel dispatcher handle).carryOut shared).value ≠
        .error .outOfFuel) : (runHandle (fuel + more) dispatcher handle).carryOut shared =
          (runHandle fuel dispatcher handle).carryOut shared := by
      have hsame := (hwalked.more_fuel hne more).carryOut_eq
      simp only [runHandle, Run.carryOut_through, Interpreter.runStory, hsame]
    rw [carryOut_runHandles_cons] at henough
    rw [carryOut_runHandles_cons, carryOut_runHandles_cons]
    cases hvalue : ((runHandle fuel dispatcher handle).carryOut shared).value with
    | error stop =>
      rw [hvalue] at henough
      have hne : stop ≠ .outOfFuel := fun hspent => henough (congrArg Except.error hspent)
      rw [hown (by rw [hvalue]; exact fun hspent => hne (Except.error.inj hspent)), hvalue]
    | ok value =>
      rw [hvalue] at henough
      rw [hown (by rw [hvalue]; nofun), hvalue]
      simp only [ih henough]

end

/-- What stories leave that run one after another, in terms of the runs of those that were run. -/
structure RunsInOrder (fuel : Nat) (dispatcher : Dispatcher σ) (handles : List Handle)
    (shared : Shared σ) (left : Acted Event (Shared σ) (Except Stop Unit))
    (runs : List (StoryRun σ)) : Prop where
  /-- The stories that run are the first ones of the list. -/
  first : runs.map StoryRun.handle <+: handles
  /-- Each runs by itself, in what the one before it left. -/
  inTurn : InTurn fuel dispatcher shared runs left.state
  /-- All but the last one come to their ends. -/
  complete : ∀ run ∈ runs.dropLast, run.Completes
  /-- It takes the ends of all stories of the list to succeed. -/
  succeeded : left.value = .ok () ↔
    runs.map StoryRun.handle = handles ∧ ∀ run ∈ runs, run.Completes
  /-- Why the last story stopped is handed on as it is. -/
  stopped : ∀ stop, left.value = .error stop ↔
    ∃ run, runs.getLast? = some run ∧ run.left.value = .error stop
  /-- What can be seen is what can be seen of the runs, with what is logged about a stop. -/
  trace : left.trace = runs.flatMap fun run => run.left.trace ++ run.records.map .logged
  /-- The stories that ran have the variables that their runs left, and the others are as they
  were. -/
  after : handlesAfter fuel dispatcher handles shared =
    runs.map StoryRun.after ++ handles.drop runs.length
  /-- No line is dispatched but in the runs. -/
  dispatches : Trace.dispatches left.trace =
    runs.flatMap fun run => Trace.dispatches run.left.trace
  /-- A run begins with the first line of its story. -/
  fromFirstLine : ∀ run ∈ runs, 0 < fuel → ∀ id line, run.story.firstLine = some id →
    run.story.line id = .ok line →
      ∃ one later, run.handed = one :: later ∧ one.line = line ∧ one.before = run.before
  /-- A line that returns or breaks is the last one of its story, which is then over. -/
  unwinds : ∀ run ∈ runs, ∀ one ∈ run.handed, ∀ outcome, one.left.value = .ok outcome →
    outcome.isSentinel = true →
      run.handed.getLast? = some one ∧ run.left.value = .ok outcome.value?
  /-- If a story fails whose pointers name lines, the last thing that happens in it is the dispatch
  that failed. -/
  fails : ∀ run ∈ runs, ∀ name error, run.story.definition.validate name = .ok () →
    run.left.value = .error (.failed error) →
      ∃ one, run.handed.getLast? = some one ∧ one.left.value = .error (.failed error) ∧
        ∃ earlier, run.left.trace = earlier ++ one.trace run.story
  /-- Without a failure, no error is logged but by the dispatcher. -/
  quiet : left.value = .ok () → Trace.errors left.trace = runs.flatMap StoryRun.dispatcherErrors
  /-- With a failure, one error is logged, which names the story that failed. -/
  report : ∀ error, left.value = .error (.failed error) → ∃ run, runs.getLast? = some run ∧
    Trace.errors left.trace =
      runs.flatMap StoryRun.dispatcherErrors ++ [storyFailed run.story error]

/-- Stories that run one after another leave what the runs of the first ones of them leave. -/
theorem exists_runsInOrder (fuel : Nat) (dispatcher : Dispatcher σ) (handles : List Handle)
    (shared : Shared σ) :
    ∃ runs, RunsInOrder fuel dispatcher handles shared
      ((runHandles fuel dispatcher handles).carryOut shared) runs := by
  obtain ⟨runs, hprefix, hturn, hconcludes, htrace, hafter⟩ :=
    exists_runs fuel dispatcher handles shared
  have hdue (run : StoryRun σ) (hrun : run ∈ runs) : ∃ before, run.Due fuel dispatcher before :=
    hturn.exists_due hrun
  refine ⟨runs, ?_⟩
  constructor
  case first => exact hprefix
  case inTurn => exact hturn
  case complete => exact hconcludes.complete
  case succeeded => exact hconcludes.succeeded
  case stopped => exact hconcludes.stopped
  case trace => exact htrace
  case after => exact hafter
  case dispatches => rw [htrace, dispatches_flatMap]
  case fromFirstLine =>
    intro run hrun hfuel id line hfirst hline
    obtain ⟨_, hown⟩ := hdue run hrun
    obtain ⟨fuel, rfl⟩ := Nat.exists_eq_add_one.mpr hfuel
    exact hown.walked.exists_first hfirst hline
  case unwinds =>
    intro run hrun one hone outcome hvalue hsentinel
    obtain ⟨_, hown⟩ := hdue run hrun
    exact hown.walked.of_sentinel hone hvalue hsentinel
  case fails =>
    intro run hrun name error hvalid hfailed
    obtain ⟨_, hown⟩ := hdue run hrun
    exact hown.walked.of_failure hvalid (fun _ => StoryDefinition.first_of_validate hvalid) hfailed
  case quiet =>
    intro hok
    rw [htrace, errors_flatMap hdue, flatMap_errors_of_complete (hconcludes.succeeded.mp hok).2]
  case report =>
    intro error hfailed
    rw [hfailed] at hconcludes
    rw [htrace, errors_flatMap hdue]
    exact hconcludes.report

/-- Under every dispatcher, the stories that run are the first ones of the list, in order, and only a
stop keeps a story from being run. More fuel makes no difference to stories that have enough. The
entrypoint stories are a list of stories with no variables bound. -/
theorem stories_run_as_prefix (fuel : Nat) (dispatcher : Dispatcher σ) (handles : List Handle)
    (shared : Shared σ) :
    let left := (runHandles fuel dispatcher handles).carryOut shared
    (∃ runs, RunsInOrder fuel dispatcher handles shared left runs) ∧
      (left.value ≠ .error .outOfFuel →
        ∀ more, (runHandles (fuel + more) dispatcher handles).carryOut shared = left) ∧
      ∀ stories, runStories fuel dispatcher stories =
        runHandles fuel dispatcher (stories.map .fresh) :=
  ⟨exists_runsInOrder fuel dispatcher handles shared,
    fun henough more => carryOut_runHandles_more more henough,
    runStories_eq_runHandles fuel dispatcher⟩

/-- A story of two lines. -/
def pairStory (first second : String) : Story :=
  .ofLines [
    { ln := first, method := .execute, next := some second },
    { ln := second, method := .execute }]

/-- A return ends the first of four stories and a break the second; a failure of the third keeps the
fourth from being run. -/
theorem third_story_fails :
    let handles := [("1", "2"), ("3", "4"), ("5", "6"), ("7", "8")].map fun lines =>
      Handle.fresh (pairStory lines.1 lines.2)
    let script : Script := .ofEntries [("1", .returned none), ("3", .breakOut),
      ("6", .fail (.storyNotFound "b.story"))]
    let left := (runHandles 2 (script.dispatcher 2) handles).carryOut (⟨{}, ()⟩ : Shared Unit)
    left.value = .error (.failed (.storyNotFound "b.story")) ∧
      Trace.dispatches left.trace =
        [("a.story", "1"), ("a.story", "3"), ("a.story", "5"), ("a.story", "6")] ∧
      (∃ runs, RunsInOrder 2 (script.dispatcher 2) handles ⟨{}, ()⟩ left runs) ∧
      (runHandles 7 (script.dispatcher 2) handles).carryOut ⟨{}, ()⟩ = left := by
  intro handles script left
  obtain ⟨hruns, hmore, -⟩ := stories_run_as_prefix 2 (script.dispatcher 2) handles
    (⟨{}, ()⟩ : Shared Unit)
  have hvalue : left.value = .error (.failed (.storyNotFound "b.story")) := rfl
  refine ⟨hvalue, rfl, hruns, hmore ?_ 5⟩
  show left.value ≠ _
  rw [hvalue]
  nofun

end StoryEngine.Bootstrap

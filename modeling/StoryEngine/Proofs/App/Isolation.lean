import StoryEngine.Proofs.App.Lifecycle
import StoryEngine.Proofs.App.Soundness
import StoryEngine.Proofs.Bootstrap.Prefix
import StoryEngine.Proofs.Interpreter.ScopeOnly

/-!
# Variables of one run and of another

A story is run through a handle, which keeps the variables that are bound in it. An application
gives handles out with no variables bound: one whenever it is asked for, and one for each entrypoint
story whenever it runs them. Under a dispatcher that depends on variables only, nothing that is done
through one handle shows in another.
-/

namespace StoryEngine

open Bootstrap

variable {σ κ η : Type}

/-- What dispatchers share. -/
def Live.shared (live : Live σ κ η) : Shared σ :=
  ⟨live.registry, live.dispatcher⟩

/-- What changes while an application lives, with what dispatchers leave. -/
def Live.withShared (live : Live σ κ η) (shared : Shared σ) : Live σ κ η :=
  { live with registry := shared.registry, dispatcher := shared.client }

/-- A living application and the handles that it has given out, in order. -/
structure Session (σ κ η : Type) where
  live : Live σ κ η
  handles : List Handle

namespace Session

/-- Runs the story of a handle, which keeps the variables that the run leaves. Where no handle was
given out, nothing happens. -/
def runAt (fuel : Nat) (dispatcher : Dispatcher σ) (index : Nat) (session : Session σ κ η) :
    Acted Event (Session σ κ η) (Except Stop (Option Json)) :=
  match session.handles[index]? with
  | none => ⟨.ok none, session, []⟩
  | some handle =>
    let own := (Interpreter.runStory fuel dispatcher handle.story).carryOut
      (handle.enter session.live.shared)
    ⟨own.value, ⟨session.live.withShared (leaveScope session.live.shared own.state),
      session.handles.set index (handle.after own.state)⟩, own.trace⟩

/-- The records about the story of a handle that stopped. -/
def stopRecordsAt (session : Session σ κ η) (index : Nat) (stop : Stop) : List LogRecord :=
  session.handles[index]?.elim [] fun handle => stopRecords handle.story stop

/-- Runs the stories of some handles one after another, until one fails. -/
def runEach (fuel : Nat) (dispatcher : Dispatcher σ) :
    List Nat → Session σ κ η → Acted Event (Session σ κ η) (Except Stop Unit)
  | [], session => ⟨.ok (), session, []⟩
  | index :: rest, session =>
    let own := session.runAt fuel dispatcher index
    match own.value with
    | .ok _ =>
      let later := runEach fuel dispatcher rest own.state
      ⟨later.value, later.state, own.trace ++ later.trace⟩
    | .error stop =>
      ⟨.error stop, own.state, own.trace ++ (session.stopRecordsAt index stop).map .logged⟩

/-- Gives out handles on some stories, with no variables bound. -/
def opening (session : Session σ κ η) (stories : List Story) : Session σ κ η :=
  { session with handles := session.handles ++ stories.map .fresh }

/-- Runs the entrypoint stories, each through a handle of its own. -/
def runStories (app : App) (runtime : AppRuntime σ κ η) (session : Session σ κ η) :
    Acted Event (Session σ κ η) (Except Stop Unit) :=
  match app.entrypoints.mapM app.story with
  | .error error => ⟨.error (.failed error), session, []⟩
  | .ok stories =>
    (session.opening stories).runEach app.lineCount runtime.dispatcher
      (List.range' session.handles.length stories.length)

/-- Starts the containers, then runs the entrypoint stories. -/
def bootstrap (app : App) (runtime : AppRuntime σ κ η) (session : Session σ κ η) :
    Acted Event (Session σ κ η) (Except Stop Unit) :=
  let started := (app.startServices runtime).carryOut session.live
  match started.value with
  | .ok _ =>
    let left := runStories app runtime ⟨started.state, session.handles⟩
    ⟨left.value, left.state, started.trace ++ left.trace⟩
  | .error stop => ⟨.error stop, ⟨started.state, session.handles⟩, started.trace⟩

end Session

/-- Something that is done with an application or with a handle that it has given out. -/
inductive Move where
  | openStory (name : String)
  | bind (index : Nat) (name : String) (value : Json)
  | run (index : Nat)
  | runStories
  | operate (operation : Operation)

/-- Whether a move is made with a handle. -/
def Move.concerns (index : Nat) : Move → Bool
  | bind other _ _ | run other => other = index
  | openStory _ | runStories | operate _ => false

/-- What a run of a story shows: its value and the lines that it dispatches. -/
structure Seen where
  value : Except Stop (Option Json)
  dispatches : List (String × String)

namespace Session

variable (app : App) (runtime : AppRuntime σ κ η)

/-- The session after a move. -/
def step (session : Session σ κ η) : Move → Session σ κ η
  | .openStory name =>
    match app.story name with
    | .ok story => session.opening [story]
    | .error _ => session
  | .bind index name value =>
    { session with handles := session.handles.modify index fun handle =>
        { handle with scope := handle.scope.bind name value } }
  | .run index => (session.runAt app.lineCount runtime.dispatcher index).state
  | .runStories => (session.runStories app runtime).state
  | .operate .bootstrap => (session.bootstrap app runtime).state
  | .operate operation =>
    { session with live := ((app.perform runtime operation).run session.live).state }

/-- What a move shows to those who hold a handle. -/
def seenAt (index : Nat) (session : Session σ κ η) : Move → List Seen
  | .run other =>
    if other = index then
      let left := session.runAt app.lineCount runtime.dispatcher other
      [⟨left.value, Trace.dispatches left.trace⟩]
    else []
  | .openStory _ | .bind .. | .runStories | .operate _ => []

/-- The session after some moves. -/
def after (session : Session σ κ η) : List Move → Session σ κ η
  | [] => session
  | move :: rest => (session.step app runtime move).after rest

/-- What some moves show to those who hold a handle. -/
def seen (index : Nat) (session : Session σ κ η) : List Move → List Seen
  | [] => []
  | move :: rest =>
    session.seenAt app runtime index move ++ (session.step app runtime move).seen index rest

section

variable {fuel : Nat} {dispatcher : Dispatcher σ} {index other : Nat} {session : Session σ κ η}

/-- What a run through a handle leaves. -/
theorem runAt_of_getElem? {handle : Handle} (hhandle : session.handles[index]? = some handle) :
    let own := (Interpreter.runStory fuel dispatcher handle.story).carryOut
      (handle.enter session.live.shared)
    session.runAt fuel dispatcher index =
      ⟨own.value, ⟨session.live.withShared (leaveScope session.live.shared own.state),
        session.handles.set index (handle.after own.state)⟩, own.trace⟩ := by
  rw [runAt, hhandle]

/-- A run through one handle leaves another one as it is. -/
theorem getElem?_runAt_of_ne (hne : other ≠ index) :
    (session.runAt fuel dispatcher other).state.handles[index]? = session.handles[index]? := by
  unfold runAt
  split
  · rfl
  · exact List.getElem?_set_ne hne

/-- Runs through some handles leave another one as it is. -/
theorem getElem?_runEach_of_not_mem {indices : List Nat} (hmem : index ∉ indices) :
    (session.runEach fuel dispatcher indices).state.handles[index]? = session.handles[index]? := by
  induction indices generalizing session with
  | nil => rfl
  | cons first rest ih =>
    have hfirst : first ≠ index := fun heq => hmem (heq ▸ List.mem_cons_self ..)
    have hrest : index ∉ rest := fun hother => hmem (List.mem_cons_of_mem first hother)
    rw [runEach]
    split
    · exact (ih hrest).trans (getElem?_runAt_of_ne hfirst)
    · exact getElem?_runAt_of_ne hfirst

/-- A handle that was given out stays as it is when others are given out. -/
theorem getElem?_opening_of_lt (hlt : index < session.handles.length) (stories : List Story) :
    (session.opening stories).handles[index]? = session.handles[index]? :=
  List.getElem?_append_left hlt

/-- The runs of the entrypoint stories leave a handle as it is that was given out before. -/
theorem getElem?_runStories_of_lt (hlt : index < session.handles.length) :
    (session.runStories app runtime).state.handles[index]? = session.handles[index]? := by
  unfold runStories
  split
  · rfl
  · rename_i stories _
    have hmem : index ∉ List.range' session.handles.length stories.length := by
      rw [List.mem_range'_1]
      omega
    exact (getElem?_runEach_of_not_mem hmem).trans (getElem?_opening_of_lt hlt stories)

/-- A start leaves a handle as it is that was given out before. -/
theorem getElem?_bootstrap_of_lt (hlt : index < session.handles.length) :
    (session.bootstrap app runtime).state.handles[index]? = session.handles[index]? := by
  unfold bootstrap
  dsimp only
  split
  · exact getElem?_runStories_of_lt app runtime hlt
  · rfl

/-- A move that is not made with a handle leaves it as it is and shows nothing to its holder. -/
theorem step_of_not_concerns {handle : Handle} (hhandle : session.handles[index]? = some handle)
    {move : Move} (hnot : move.concerns index = false) :
    (session.step app runtime move).handles[index]? = some handle ∧
      session.seenAt app runtime index move = [] := by
  obtain ⟨hlt, -⟩ := List.getElem?_eq_some_iff.mp hhandle
  cases move with
  | openStory name =>
    refine ⟨?_, rfl⟩
    unfold step
    dsimp only
    split
    · exact (getElem?_opening_of_lt hlt _).trans hhandle
    · exact hhandle
  | bind other name value =>
    have hne : other ≠ index := of_decide_eq_false hnot
    refine ⟨?_, rfl⟩
    exact (List.getElem?_modify_ne _ _ hne).trans hhandle
  | run other =>
    have hne : other ≠ index := of_decide_eq_false hnot
    exact ⟨(getElem?_runAt_of_ne hne).trans hhandle, if_neg hne⟩
  | runStories => exact ⟨(getElem?_runStories_of_lt app runtime hlt).trans hhandle, rfl⟩
  | operate operation =>
    refine ⟨?_, rfl⟩
    cases operation with
    | bootstrap => exact (getElem?_bootstrap_of_lt app runtime hlt).trans hhandle
    | add | remove | unsubscribeAll | destroy => exact hhandle

/-- A move that is made with a handle does the same to it and shows the same to its holder in all
sessions. -/
theorem step_of_concerns {runtime : AppRuntime σ κ η} (hscope : runtime.dispatcher.ScopeOnly)
    {otherSession : Session σ κ η} {handle : Handle}
    (hhandle : session.handles[index]? = some handle)
    (hother : otherSession.handles[index]? = some handle) {move : Move}
    (hconcerns : move.concerns index = true) :
    (∃ next, (session.step app runtime move).handles[index]? = some next ∧
      (otherSession.step app runtime move).handles[index]? = some next) ∧
    session.seenAt app runtime index move = otherSession.seenAt app runtime index move := by
  obtain ⟨hlt, -⟩ := List.getElem?_eq_some_iff.mp hhandle
  obtain ⟨hltOther, -⟩ := List.getElem?_eq_some_iff.mp hother
  cases move with
  | openStory | runStories | operate => cases hconcerns
  | bind other name value =>
    obtain rfl : other = index := of_decide_eq_true hconcerns
    refine ⟨⟨{ handle with scope := handle.scope.bind name value }, ?_, ?_⟩, rfl⟩
    · exact (List.getElem?_modify_eq ..).trans (congrArg _ hhandle)
    · exact (List.getElem?_modify_eq ..).trans (congrArg _ hother)
  | run other =>
    obtain rfl : other = index := of_decide_eq_true hconcerns
    have halike : Alike
        ((Interpreter.runStory app.lineCount runtime.dispatcher handle.story).carryOut
          (handle.enter session.live.shared))
        ((Interpreter.runStory app.lineCount runtime.dispatcher handle.story).carryOut
          (handle.enter otherSession.live.shared)) :=
      Interpreter.runStory_scopeOnly hscope app.lineCount handle.story _ _ rfl
    have hseen (before : Session σ κ η) :
        before.seenAt app runtime other (.run other) =
          [⟨(before.runAt app.lineCount runtime.dispatcher other).value, Trace.dispatches
            (before.runAt app.lineCount runtime.dispatcher other).trace⟩] := if_pos rfl
    rw [hseen, hseen, step, step, runAt_of_getElem? hhandle, runAt_of_getElem? hother]
    refine ⟨⟨_, List.getElem?_set_self hlt, ?_⟩, ?_⟩
    · rw [List.getElem?_set_self hltOther, Handle.after, Handle.after, halike.scope]
    · rw [halike.value, halike.dispatches]

/-- What is done with a handle, and what is shown to its holder, stays the same in another session
and without the moves that are not made with it. -/
theorem after_filter {runtime : AppRuntime σ κ η} (hscope : runtime.dispatcher.ScopeOnly)
    {otherSession : Session σ κ η} {handle : Handle} (moves : List Move)
    (hhandle : session.handles[index]? = some handle)
    (hother : otherSession.handles[index]? = some handle) :
    let own := moves.filter (·.concerns index)
    (session.after app runtime moves).handles[index]? =
        (otherSession.after app runtime own).handles[index]? ∧
      session.seen app runtime index moves = otherSession.seen app runtime index own := by
  induction moves generalizing session otherSession handle with
  | nil => exact ⟨hhandle.trans hother.symm, rfl⟩
  | cons move rest ih =>
    cases hconcerns : move.concerns index with
    | false =>
      obtain ⟨hsame, hsilent⟩ := step_of_not_concerns app runtime hhandle hconcerns
      have hrest := ih hsame hother
      rw [List.filter_cons_of_neg (by simp [hconcerns]), after, seen, hsilent, List.nil_append]
      exact hrest
    | true =>
      obtain ⟨⟨next, hnext, hnextOther⟩, hseen⟩ :=
        step_of_concerns app hscope hhandle hother hconcerns
      obtain ⟨hlast, hlater⟩ := ih hnext hnextOther
      rw [List.filter_cons_of_pos hconcerns]
      refine ⟨hlast, ?_⟩
      rw [seen, hseen, hlater]
      rfl

/-- Runs through handles that were given out last are runs of their stories one after another. -/
theorem runEach_range' (fuel : Nat) (dispatcher : Dispatcher σ) {before opened : List Handle}
    (hhandles : session.handles = before ++ opened) :
    let left := (runHandles fuel dispatcher opened).carryOut session.live.shared
    session.runEach fuel dispatcher (List.range' before.length opened.length) =
      ⟨left.value, ⟨session.live.withShared left.state,
        before ++ handlesAfter fuel dispatcher opened session.live.shared⟩, left.trace⟩ := by
  induction opened generalizing before session with
  | nil =>
    show (⟨.ok (), session, []⟩ : Acted Event (Session σ κ η) (Except Stop Unit)) = _
    rw [handlesAfter, ← hhandles]
    rfl
  | cons handle rest ih =>
    have hhandle : session.handles[before.length]? = some handle := by
      rw [hhandles, List.getElem?_append_right (Nat.le_refl _), Nat.sub_self]
      rfl
    have hset (next : Handle) : session.handles.set before.length next =
        (before ++ [next]) ++ rest := by
      rw [hhandles, List.set_append_right _ _ (Nat.le_refl _), Nat.sub_self, List.append_assoc]
      rfl
    let own := (Interpreter.runStory fuel dispatcher handle.story).carryOut
      (handle.enter session.live.shared)
    have hfirst : (runHandle fuel dispatcher handle).carryOut session.live.shared =
        ⟨own.value, leaveScope session.live.shared own.state, own.trace⟩ := rfl
    have hrecords (stop : Stop) :
        session.stopRecordsAt before.length stop = stopRecords handle.story stop := by
      rw [stopRecordsAt, hhandle, Option.elim_some]
    let next : Session σ κ η := ⟨session.live.withShared (leaveScope session.live.shared own.state),
      session.handles.set before.length (handle.after own.state)⟩
    have hrun : session.runAt fuel dispatcher before.length = ⟨own.value, next, own.trace⟩ :=
      runAt_of_getElem? hhandle
    rw [List.length_cons, List.range'_succ, runEach, hrun, carryOut_runHandles_cons, hfirst,
      handlesAfter]
    cases hvalue : own.value with
    | error stop =>
      have hnext : next = ⟨next.live, before ++ handle.after own.state :: rest⟩ :=
        congrArg (Session.mk next.live) ((hset _).trans (List.append_assoc ..))
      dsimp only
      rw [hrecords, hnext]
    | ok value =>
      have hnext : next.handles = (before ++ [handle.after own.state]) ++ rest := hset _
      have hrest := ih hnext
      rw [List.length_append, List.length_singleton] at hrest
      dsimp only
      rw [hrest, List.append_assoc]
      rfl

/-- The runs of the entrypoint stories are runs of stories without variables, one after another. -/
theorem runStories_eq {stories : List Story} (hstories : app.entrypoints.mapM app.story = .ok stories)
    (session : Session σ κ η) :
    let opened := stories.map Handle.fresh
    let left := (runHandles app.lineCount runtime.dispatcher opened).carryOut session.live.shared
    session.runStories app runtime = ⟨left.value, ⟨session.live.withShared left.state,
      session.handles ++ handlesAfter app.lineCount runtime.dispatcher opened session.live.shared⟩,
      left.trace⟩ := by
  have hhandles : (session.opening stories).handles = session.handles ++ stories.map .fresh := rfl
  have hruns := runEach_range' app.lineCount runtime.dispatcher hhandles
  rw [List.length_map] at hruns
  rw [runStories, hstories]
  exact hruns

/-- An application runs its entrypoint stories as if it gave a handle out for each of them. -/
theorem carryOut_runStories (session : Session σ κ η) :
    (app.runStories runtime).carryOut session.live =
      ⟨(session.runStories app runtime).value, (session.runStories app runtime).state.live,
        (session.runStories app runtime).trace⟩ := by
  cases hstories : app.entrypoints.mapM app.story with
  | error error =>
    rw [App.runStories, runStories, hstories]
    rfl
  | ok stories =>
    rw [runStories_eq app runtime hstories, App.runStories, hstories, Run.carryOut_bind,
      Run.carryOut_ofExcept_ok]
    simp only [Live.carryOut_onShared, runStories_eq_runHandles, List.nil_append]
    rfl

/-- An application starts as if it gave a handle out for each of its entrypoint stories. -/
theorem carryOut_bootstrap (session : Session σ κ η) :
    (app.bootstrap runtime).carryOut session.live =
      ⟨(session.bootstrap app runtime).value, (session.bootstrap app runtime).state.live,
        (session.bootstrap app runtime).trace⟩ := by
  have hruns := carryOut_runStories app runtime
    ⟨((app.startServices runtime).carryOut session.live).state, session.handles⟩
  rw [App.bootstrap, Run.carryOut_bind, bootstrap]
  cases ((app.startServices runtime).carryOut session.live).value with
  | error stop => rfl
  | ok _ =>
    dsimp only at hruns ⊢
    rw [hruns]

end

end Session

namespace App

/-- What the runs of the entrypoint stories are, which an application makes in a session. -/
structure EntrypointRuns (app : App) (runtime : AppRuntime σ κ η) (session : Session σ κ η)
    (left : Acted Event (Session σ κ η) (Except Stop Unit)) (runs : List (StoryRun σ)) : Prop where
  /-- The runs are those of the application, which knows nothing of the session. -/
  plain : (app.runStories runtime).carryOut session.live =
    ⟨left.value, left.state.live, left.trace⟩
  /-- The entrypoint stories that run are the first ones of them, in order. -/
  names : runs.map (·.story.name) <+: app.entrypoints
  /-- They are stories of the application, and run one after another with no variables bound. -/
  inOrder : ∃ stories, app.entrypoints.mapM app.story = .ok stories ∧
    RunsInOrder app.lineCount runtime.dispatcher (stories.map .fresh) session.live.shared
      ⟨left.value, left.state.live.shared, left.trace⟩ runs
  /-- Each shows what a run of the same story by itself shows, wherever that is made. -/
  alone : ∀ run ∈ runs, app.story run.story.name = .ok run.story ∧
    ∀ (fuel : Nat) (s : RunState σ), run.story.lines.length ≤ fuel → s.scope = ∅ →
      Alike run.left ((Interpreter.runStory fuel runtime.dispatcher run.story).carryOut s)
  /-- The variables that a run leaves are bound in a handle of its own. -/
  handles : ∃ unrun : List Handle,
    left.state.handles = session.handles ++ runs.map StoryRun.after ++ unrun ∧
      ∀ handle ∈ unrun, handle.scope = ∅

section

variable {app : App}

/-- A sound application finds each of its stories by name. -/
theorem story_eq_ok {story : Story} (hstory : story ∈ app.allStories) :
    app.story story.name = .ok story := by
  obtain ⟨entry, hentry, rfl⟩ := List.mem_map.mp hstory
  rw [App.story, Std.ExtTreeMap.mem_toList_iff_getElem?_eq_some.mp hentry]

/-- The runs of the entrypoint stories of a sound application are by themselves. -/
theorem Sound.exists_entrypointRuns (h : app.Sound) {runtime : AppRuntime σ κ η}
    (hscope : runtime.dispatcher.ScopeOnly) (session : Session σ κ η) :
    ∃ runs, app.EntrypointRuns runtime session (session.runStories app runtime) runs := by
  obtain ⟨stories, hstories, hnames, hall⟩ := h.exists_entrypoints
  obtain ⟨runs, hruns⟩ := exists_runsInOrder app.lineCount runtime.dispatcher
    (stories.map .fresh) session.live.shared
  have hleft := Session.runStories_eq app runtime hstories session
  have hfresh (run : StoryRun σ) (hrun : run ∈ runs) :
      run.handle = .fresh run.story ∧ run.story ∈ app.allStories := by
    obtain ⟨story, hstory, hhandle⟩ := List.mem_map.mp
      (hruns.first.subset (List.mem_map_of_mem hrun))
    rw [StoryRun.story, ← hhandle]
    exact ⟨rfl, hall story hstory⟩
  refine ⟨runs, ?_⟩
  constructor
  case plain => exact Session.carryOut_runStories app runtime session
  case names =>
    have hprefix := hruns.first.map fun handle => handle.story.name
    rw [List.map_map, List.map_map] at hprefix
    rw [← hnames]
    exact hprefix
  case inOrder =>
    rw [hleft]
    exact ⟨stories, hstories, hruns⟩
  case alone =>
    intro run hrun
    obtain ⟨hhandle, hstory⟩ := hfresh run hrun
    refine ⟨story_eq_ok hstory, fun fuel s hfuel hempty => ?_⟩
    obtain ⟨before, hdue⟩ := hruns.inTurn.exists_due hrun
    have hscopes : run.before.scope = s.scope := by
      rw [hdue.before, hhandle, hempty]
      rfl
    rw [← hdue.left, Interpreter.runStory_eq_of_fuel (h.stories _ hstory) runtime.dispatcher hfuel
      (app.length_lines_le hstory)]
    exact Interpreter.runStory_scopeOnly hscope app.lineCount run.story _ _ hscopes
  case handles =>
    rw [hleft]
    refine ⟨(stories.map .fresh).drop runs.length, ?_, fun handle hhandle => ?_⟩
    · dsimp only
      rw [hruns.after, List.append_assoc]
    · obtain ⟨story, -, rfl⟩ := List.mem_map.mp (List.mem_of_mem_drop hhandle)
      rfl

end

/-- Under a dispatcher that depends on variables only, no variable that is bound in one run shows in
another. Whatever was done before, each run of an entrypoint story shows what the story shows by
itself; and a handle and what it shows depend on the moves that are made with it alone. -/
theorem variables_stay_apart {definition : AppDefinition} {config : AppConfig} {app : App}
    (hcreate : App.create definition config = .ok app) {runtime : AppRuntime σ κ η}
    (hscope : runtime.dispatcher.ScopeOnly) (start : Session σ κ η) (history : List Move) :
    let session := start.after app runtime history
    (∃ runs, app.EntrypointRuns runtime session (session.runStories app runtime) runs) ∧
    (app.bootstrap runtime).carryOut session.live =
      ⟨(session.bootstrap app runtime).value, (session.bootstrap app runtime).state.live,
        (session.bootstrap app runtime).trace⟩ ∧
    ∀ (index : Nat) (handle : Handle), start.handles[index]? = some handle →
      ∀ other : Session σ κ η, other.handles[index]? = some handle →
        let own := history.filter (·.concerns index)
        session.handles[index]? = (other.after app runtime own).handles[index]? ∧
          start.seen app runtime index history = other.seen app runtime index own := by
  intro session
  refine ⟨(sound_of_create hcreate).exists_entrypointRuns hscope session,
    session.carryOut_bootstrap app runtime, ?_⟩
  intro index handle hhandle other hother
  exact Session.after_filter app hscope history hhandle hother

/-- A dispatcher that binds a variable for every line of a story and fails at a line whose variable
is bound; otherwise it does what a script says. -/
def markingDispatcher (script : Script) (fuel : Nat) : Dispatcher Unit := fun story line => do
  if (← Interpreter.readVariable line.ln).isSome then
    Run.fail (.storyExecution s!"line {line.ln} is marked")
  else
    Interpreter.bindVariable line.ln .null
    script.dispatcher fuel story line

/-- A definition with the story with a loop, which it runs twice at the start. -/
def twiceDefinition : AppDefinition where
  appId := "app-1"
  appDns := "my-app"
  version := 1
  ownerUuid := "owner-1"
  stories := {
    stories := .ofEntries [("a.story", Interpreter.loopStory.definition)]
    entrypoint := ["a.story", "a.story"] }

/-- The application that is made from it. -/
def twiceApp : App where
  state := .create "app-1" "my-app" 1 "owner-1" .empty {} "storyflow.app"
  stories := twiceDefinition.stories.stories
  entrypoints := twiceDefinition.stories.entrypoint
  config := {}

/-- After runs that have bound variables, the story that is listed twice still runs through twice,
though the one that is run again through a handle of its own fails. -/
theorem twice_stays_apart :
    let runtime : AppRuntime Unit Unit Http.Replies :=
      { scriptedRuntime with dispatcher := markingDispatcher ∅ 6 }
    let handle := Handle.fresh ⟨"a.story", Interpreter.loopStory.definition, twiceApp.state⟩
    let start : Session Unit Unit Http.Replies := ⟨⟨{}, (), (), ∅⟩, [handle]⟩
    let history : List Move := [.run 0, .operate .bootstrap, .run 0]
    let left := (start.after twiceApp runtime history).runStories twiceApp runtime
    left.value = .ok () ∧
      (Trace.dispatches left.trace).map Prod.snd = ["1", "2", "3", "4", "1", "2", "3", "4"] ∧
      (∃ runs, twiceApp.EntrypointRuns runtime (start.after twiceApp runtime history) left runs) ∧
      (start.seen twiceApp runtime 0 history).map Seen.value =
        [.ok none, .error (.failed (.storyExecution "line 1 is marked"))] ∧
      start.seen twiceApp runtime 0 history = start.seen twiceApp runtime 0 [.run 0, .run 0] := by
  intro runtime handle start history left
  have hcreate : App.create twiceDefinition {} = .ok twiceApp := rfl
  have hscope : runtime.dispatcher.ScopeOnly := by
    intro story line
    refine (ScopeOnly.readVariable _).bind fun value => ?_
    split
    · exact .throw _
    · exact (ScopeOnly.bindVariable _ _).bind fun _ =>
        Interpreter.scopeOnly_kept.script ∅ 6 story line
  obtain ⟨hruns, -, hapart⟩ := variables_stay_apart hcreate hscope start history
  obtain ⟨-, hseen⟩ := hapart 0 handle rfl start rfl
  refine ⟨rfl, by decide +kernel, hruns, rfl, hseen⟩

end App

end StoryEngine

import StoryEngine.Proofs.App.Soundness
import StoryEngine.Proofs.App.Unsubscribing
import StoryEngine.Proofs.Bootstrap.Join
import StoryEngine.Proofs.Bootstrap.Stories
import StoryEngine.Proofs.Interpreter.Failures

/-!
# The start of an application

No line is dispatched before every container that is planned has been started with success, and none
at all if an `execute` line on a walk does not resolve. An application that could be made has no
errors of its own: its start ends with the reason why a line does not resolve, with an error of a
container start, or as a line did that was dispatched.
-/

namespace StoryEngine

variable {σ κ η : Type}

namespace Bootstrap

variable {launches : List Launch} {failures : Fin launches.length → Option EngineError}

/-- The events of some steps dispatch no line. -/
theorem dispatches_map_stepEvent (steps : List (LaunchStep launches.length)) :
    Trace.dispatches (steps.map (stepEvent launches failures)) = [] := by
  refine Trace.filterMap_map_eq_nil (fun step => ?_) steps
  cases step <;> rfl

/-- Records dispatch no line. -/
theorem dispatches_map_logged (records : List LogRecord) :
    Trace.dispatches (records.map .logged) = [] :=
  Trace.filterMap_map_eq_nil (fun _ => rfl) records

/-- Starting containers dispatches no line. -/
theorem dispatches_startServices (runtime : ContainerRuntime κ) (stories : List Story) (s : κ) :
    Trace.dispatches ((startServices runtime stories).carryOut s).trace = [] := by
  cases hplan : plan runtime.isReusable stories with
  | error stop =>
    rw [startServices_of_plan_eq_error hplan]
    rfl
  | ok launches =>
    rw [(joins_startServices hplan s).waits, Trace.dispatches_append, dispatches_map_stepEvent,
      dispatches_map_logged, List.append_nil]

/-- When containers could be started, all starts of the plan have begun and succeeded. -/
theorem exists_launches_of_ok {runtime : ContainerRuntime κ} {stories : List Story} {s : κ}
    (hok : ((startServices runtime stories).carryOut s).value = .ok ()) :
    ∃ launches, plan runtime.isReusable stories = .ok launches ∧
      Trace.starts ((startServices runtime stories).carryOut s).trace = launches.map Launch.call ∧
      (Trace.ends ((startServices runtime stories).carryOut s).trace).Perm
        (launches.map fun launch => (launch.call, none)) := by
  cases hplan : plan runtime.isReusable stories with
  | error stop =>
    rw [startServices_of_plan_eq_error hplan] at hok
    cases hok
  | ok launches =>
    have hjoins := joins_startServices hplan s
    have hsuccess := hjoins.success.mp hok
    refine ⟨launches, rfl, hjoins.begins, hjoins.finishes.trans (.of_eq ?_)⟩
    simp only [hsuccess]
    exact List.ext_getElem (by simp) (by simp)

/-- A start of containers that fails without a plan has met a fault, and otherwise fails with an
error with which a start ended. -/
theorem cause_of_error {runtime : ContainerRuntime κ} {stories : List Story} {s : κ} {stop : Stop}
    (herror : ((startServices runtime stories).carryOut s).value = .error stop) :
    PlanFault (stories.flatMap visits) stop ∨ ∃ call error, stop = .failed error ∧
      .startEnded call (some error) ∈ ((startServices runtime stories).carryOut s).trace := by
  cases hplan : plan runtime.isReusable stories with
  | error other =>
    rw [startServices_of_plan_eq_error hplan] at herror
    cases herror
    exact Or.inl (planFrom_eq_error hplan)
  | ok launches =>
    rw [startServices_of_plan_eq_ok hplan] at herror ⊢
    cases hvalue : ((launchAll runtime launches).run s).value with
    | ok _ =>
      rw [hvalue] at herror
      cases herror
    | error error =>
      rw [hvalue] at herror
      cases herror
      obtain ⟨call, hended⟩ := startEnded_mem_of_launchAll_eq_error hvalue
      exact Or.inr ⟨call, error, rfl, hended⟩

/-- If a line on a walk does not resolve, then nothing is started. -/
theorem startServices_of_unresolvable (runtime : ContainerRuntime κ) {stories : List Story}
    {story : Story} {line : Line} {fault : ResolutionFault} (hstory : story ∈ stories)
    (hline : line ∈ story.lines) (hfault : story.app.catalog.Unresolvable line fault) (s : κ) :
    ∃ stop, (startServices runtime stories).carryOut s = ⟨.error stop, s, []⟩ := by
  cases hplan : plan runtime.isReusable stories with
  | error stop => exact ⟨stop, startServices_of_plan_eq_error hplan s⟩
  | ok launches =>
    have hvisit : .line story line ∈ stories.flatMap visits :=
      List.mem_flatMap.mpr ⟨story, hstory, line_mem_visits hline⟩
    have hmethod : line.method = .execute := by
      cases hfault <;> assumption
    obtain ⟨chain, hchain⟩ := resolve_of_mem_visits hplan hvisit hmethod
    rw [hfault.resolve_eq] at hchain
    cases hchain

end Bootstrap

/-- The runtime with a dispatcher that records the calls that it takes. -/
def AppRuntime.recording (runtime : AppRuntime σ κ η) : AppRuntime (Recorded σ) κ η where
  dispatcher := runtime.dispatcher.recording
  containers := runtime.containers
  http := runtime.http

@[simp] theorem AppRuntime.recording_dispatcher (runtime : AppRuntime σ κ η) :
    runtime.recording.dispatcher = runtime.dispatcher.recording := rfl

/-- The state of an application whose dispatcher has recorded some calls. -/
def Live.withCalls (live : Live σ κ η) (calls : List Call) : Live (Recorded σ) κ η where
  registry := live.registry
  dispatcher := ⟨live.dispatcher, calls⟩
  containers := live.containers
  http := live.http

/-- If a run on what dispatchers share does the same with and without recorded calls, then so it
does in an application. -/
theorem Live.carryOut_onShared_withCalls {α : Type} {plain : Run (Shared σ) α}
    {recorded : Run (Shared (Recorded σ)) α} {live : Live σ κ η} {calls : List Call}
    (hsame : let left := plain.carryOut ⟨live.registry, live.dispatcher⟩
      recorded.carryOut (Shared.withCalls ⟨live.registry, live.dispatcher⟩ []) =
        ⟨left.value, left.state.withCalls calls, left.trace⟩) :
    let left := (onShared plain).carryOut live
    (onShared recorded).carryOut (live.withCalls []) =
      ⟨left.value, left.state.withCalls calls, left.trace⟩ := by
  have hshared : (⟨(live.withCalls []).registry, (live.withCalls []).dispatcher⟩ :
      Shared (Recorded σ)) = Shared.withCalls ⟨live.registry, live.dispatcher⟩ [] := rfl
  rw [carryOut_onShared, carryOut_onShared, hshared, hsame]
  rfl

namespace App

/-- What an application leaves when it starts its containers, which is all that it leaves if that
fails. -/
def started (app : App) (runtime : AppRuntime σ κ η) (live : Live σ κ η) :
    Acted Event (Live σ κ η) (Except Stop Unit) :=
  (app.startServices runtime).carryOut live

/-- What keeps lines from being dispatched: the trace of a start of an application is cut where its
containers have been started. -/
structure Gated (app : App) (runtime : AppRuntime σ κ η) (live : Live σ κ η)
    (left : Acted Event (Live σ κ η) (Except Stop Unit)) (rest : Trace) : Prop where
  cut : left.trace = (app.started runtime live).trace ++ rest
  /-- No line is dispatched before the cut. -/
  silent : Trace.dispatches (app.started runtime live).trace = []
  /-- Something happens after it only if every start of the plan has begun and succeeded. -/
  waits : rest ≠ [] → ∃ launches,
    Bootstrap.plan runtime.containers.isReusable app.allStories = .ok launches ∧
      Trace.starts (app.started runtime live).trace = launches.map Launch.call ∧
      (Trace.ends (app.started runtime live).trace).Perm
        (launches.map fun launch => (launch.call, none))
  /-- Nothing happens after it if a start failed. -/
  failed : ∀ call error, .startEnded call (some error) ∈ (app.started runtime live).trace →
    rest = []
  /-- Nothing is done at all if a line on the walk of a story does not resolve, whether or not the
  story runs at the start. -/
  unresolvable : ∀ story ∈ app.allStories, ∀ line ∈ story.lines, ∀ fault,
    story.app.catalog.Unresolvable line fault → left.state = live ∧ left.trace = []

/-- Why the start of an application stopped. -/
inductive StoppedBy (app : App) (started : Trace) (calls : List Call) : Stop → Prop where
  /-- A line on the walk of a story does not resolve. -/
  | unresolved {story : Story} {line : Line} {fault : ResolutionFault}
      (hstory : story ∈ app.allStories) (hline : line ∈ story.lines)
      (hfault : story.app.catalog.Unresolvable line fault) :
      StoppedBy app started calls (.failed (.resolution (fault.message story.name line.ln)))
  /-- A container start ended with this error. -/
  | notStarted {call : StartCall} {error : EngineError}
      (hended : .startEnded call (some error) ∈ started) :
      StoppedBy app started calls (.failed error)
  /-- The last line that was dispatched stopped in this way. -/
  | called {call : Call} {stop : Stop} (hcall : calls.getLast? = some call)
      (hresult : call.result = .error stop) : StoppedBy app started calls stop

/-- The containers are started for the stories in the order of their names, whatever the
dispatcher. -/
theorem started_eq (app : App) (runtime : AppRuntime σ κ η) (live : Live σ κ η) :
    let left := (Bootstrap.startServices runtime.containers app.allStories).carryOut live.containers
    app.started runtime live =
      ⟨left.value, { live with containers := left.state }, left.trace⟩ := by
  rw [started, startServices_eq, Live.carryOut_onContainers]

/-- An application that is started starts its containers, and runs its stories if they could all be
started. -/
theorem bootstrap_carryOut (app : App) (runtime : AppRuntime σ κ η) (live : Live σ κ η) :
    (app.bootstrap runtime).carryOut live =
      match (app.started runtime live).value with
      | .ok _ =>
        let ran := (app.runStories runtime).carryOut (app.started runtime live).state
        ⟨ran.value, ran.state, (app.started runtime live).trace ++ ran.trace⟩
      | .error stop =>
        ⟨.error stop, (app.started runtime live).state, (app.started runtime live).trace⟩ := by
  rw [bootstrap, Run.carryOut_bind, ← started]
  cases (app.started runtime live).value <;> rfl

/-- The start of an application is gated by the start of its containers. -/
theorem exists_gated (app : App) (runtime : AppRuntime σ κ η) (live : Live σ κ η) :
    ∃ rest, app.Gated runtime live ((app.bootstrap runtime).carryOut live) rest := by
  have hstarted := app.started_eq runtime live
  have hleft := app.bootstrap_carryOut runtime live
  -- what follows the start of the containers is empty unless that succeeds
  obtain ⟨rest, hcut, hok⟩ : ∃ rest,
      ((app.bootstrap runtime).carryOut live).trace = (app.started runtime live).trace ++ rest ∧
        (rest ≠ [] → (app.started runtime live).value = .ok ()) := by
    cases hvalue : (app.started runtime live).value with
    | ok _ =>
      rw [hleft, hvalue]
      exact ⟨_, rfl, fun _ => rfl⟩
    | error stop =>
      rw [hleft, hvalue]
      exact ⟨[], (List.append_nil _).symm, fun hne => absurd rfl hne⟩
  have hwaits : rest ≠ [] → ∃ launches,
      Bootstrap.plan runtime.containers.isReusable app.allStories = .ok launches ∧
        Trace.starts (app.started runtime live).trace = launches.map Launch.call ∧
        (Trace.ends (app.started runtime live).trace).Perm
          (launches.map fun launch => (launch.call, none)) := by
    intro hne
    have hvalue := hok hne
    rw [hstarted] at hvalue ⊢
    exact Bootstrap.exists_launches_of_ok hvalue
  refine ⟨rest, hcut, ?_, hwaits, ?_, ?_⟩
  · rw [hstarted]
    exact Bootstrap.dispatches_startServices _ _ _
  · intro call error hended
    refine Decidable.byContradiction fun hne => ?_
    obtain ⟨launches, -, -, hends⟩ := hwaits hne
    have hmem : (call, some error) ∈ Trace.ends (app.started runtime live).trace :=
      List.mem_filterMap.mpr ⟨_, hended, rfl⟩
    obtain ⟨launch, -, heq⟩ := List.mem_map.mp (hends.mem_iff.mp hmem)
    cases heq
  · intro story hstory line hline fault hfault
    obtain ⟨stop, hstop⟩ := Bootstrap.startServices_of_unresolvable runtime.containers hstory hline
      hfault live.containers
    have hnothing : app.started runtime live = ⟨.error stop, live, []⟩ := by
      rw [hstarted, hstop]
    rw [hleft, hnothing]
    exact ⟨rfl, rfl⟩

/-- The walks of a sound application meet lines only, so that only a line that does not resolve
keeps it from having a plan. -/
theorem Sound.stoppedBy_of_planFault {app : App} (h : app.Sound) {stop : Stop}
    (hfault : Bootstrap.PlanFault (app.allStories.flatMap Bootstrap.visits) stop)
    (started : Trace) (calls : List Call) : app.StoppedBy started calls stop := by
  have hvisits (story : Story) (hstory : story ∈ app.allStories) :
      Bootstrap.visits story = story.lines.map (.line story) := by
    rw [Bootstrap.visits, h.stop_eq_finished hstory]
    exact List.append_nil _
  cases hfault with
  | stopped hvisit =>
    obtain ⟨story, hstory, hvisit⟩ := List.mem_flatMap.mp hvisit
    rw [hvisits story hstory] at hvisit
    obtain ⟨_, -, hline⟩ := List.mem_map.mp hvisit
    cases hline
  | @unresolved story line error hvisit hmethod hchain =>
    obtain ⟨other, hstory, hvisit⟩ := List.mem_flatMap.mp hvisit
    rw [hvisits other hstory] at hvisit
    obtain ⟨_, hline, heq⟩ := List.mem_map.mp hvisit
    obtain ⟨rfl, rfl⟩ := Bootstrap.Visit.line.inj heq.symm
    by_cases hfault : ∃ fault, story.app.catalog.Unresolvable line fault
    · obtain ⟨fault, hfault⟩ := hfault
      rw [hfault.resolve_eq] at hchain
      cases hchain
      exact .unresolved hstory hline hfault
    · obtain ⟨chain, hok⟩ :=
        Catalog.exists_resolve_eq_ok story.name hmethod (not_exists.mp hfault)
      rw [hok] at hchain
      cases hchain

/-- The start of a sound application under a dispatcher that records its calls does what it does
under the plain one, and stops for one of three reasons. -/
theorem Sound.exists_calls {app : App} (h : app.Sound) (runtime : AppRuntime σ κ η)
    (live : Live σ κ η) :
    let left := (app.bootstrap runtime).carryOut live
    ∃ calls : List Call,
      (app.bootstrap runtime.recording).carryOut (live.withCalls []) =
        ⟨left.value, left.state.withCalls calls, left.trace⟩ ∧
      (∀ call ∈ calls, ∃ story ∈ app.allStories, call.line ∈ story.lines) ∧
      ∀ stop, left.value = .error stop →
        app.StoppedBy (app.started runtime live).trace calls stop := by
  have hstarted := app.started_eq runtime live
  have hrecorded : app.started runtime.recording (live.withCalls []) =
      ⟨(app.started runtime live).value, (app.started runtime live).state.withCalls [],
        (app.started runtime live).trace⟩ := by
    rw [hstarted, started_eq]
    rfl
  rw [bootstrap_carryOut, bootstrap_carryOut, hrecorded]
  cases hvalue : (app.started runtime live).value with
  | error stop =>
    refine ⟨[], rfl, (fun call hcall => nomatch hcall), fun other hother => ?_⟩
    cases hother
    rw [hstarted] at hvalue ⊢
    rcases Bootstrap.cause_of_error hvalue with hfault | ⟨call, error, rfl, hended⟩
    · exact h.stoppedBy_of_planFault hfault _ _
    · exact .notStarted hended
  | ok value =>
    obtain ⟨stories, hstories, -, hall⟩ := h.exists_entrypoints
    have hrun {σ' : Type} (runtime : AppRuntime σ' κ η) : app.runStories runtime =
        Live.onShared (Bootstrap.runStories app.lineCount runtime.dispatcher stories) := by
      rw [runStories, hstories]
      rfl
    obtain ⟨calls, hcalls, hlines, hlast⟩ := Bootstrap.runStories_recorded runtime.dispatcher
      (fun story hstory => h.stories story (hall story hstory))
      (fun story hstory => app.length_lines_le (hall story hstory))
      ⟨(app.started runtime live).state.registry, (app.started runtime live).state.dispatcher⟩ []
    rw [List.nil_append] at hcalls
    simp only [hrun, AppRuntime.recording_dispatcher]
    refine ⟨calls, ?_, fun call hcall => ?_, fun stop hstop => ?_⟩
    · rw [Live.carryOut_onShared_withCalls hcalls]
    · obtain ⟨story, hstory, hline⟩ := hlines call hcall
      exact ⟨story, hall story hstory, hline⟩
    · obtain ⟨call, hcall, hresult⟩ := hlast stop hstop
      exact .called hcall hresult

/-- An application that could be made dispatches no line before its containers have been started,
and stops for three reasons only: a line on a walk does not resolve, a container start ended with an
error, or a line that was dispatched stopped. The interpreter adds no errors in its stories. -/
theorem bootstrap_is_gated {definition : AppDefinition} {config : AppConfig} {app : App}
    (hcreate : App.create definition config = .ok app) (runtime : AppRuntime σ κ η)
    (live : Live σ κ η) :
    let left := (app.bootstrap runtime).carryOut live
    (∃ rest, app.Gated runtime live left rest) ∧
      (∃ calls : List Call,
        (app.bootstrap runtime.recording).carryOut (live.withCalls []) =
          ⟨left.value, left.state.withCalls calls, left.trace⟩ ∧
        (∀ call ∈ calls, ∃ story ∈ app.allStories, call.line ∈ story.lines) ∧
        ∀ stop, left.value = .error stop →
          app.StoppedBy (app.started runtime live).trace calls stop) ∧
      ∀ story ∈ app.allStories, Interpreter.AddsNoErrors story := by
  have hsound := sound_of_create hcreate
  exact ⟨app.exists_gated runtime live, hsound.exists_calls runtime live,
    fun story hstory => Interpreter.addsNoErrors (hsound.stories story hstory)⟩

/-- A release whose only story asks for a command of its mailer. -/
def mailDefinition : AppDefinition where
  appId := "app-1"
  appDns := "mails"
  version := 1
  ownerUuid := "owner-1"
  stories := {
    stories := .ofEntries [("a.story", Bootstrap.sendStory.definition)]
    entrypoint := ["a.story"] }
  catalog := Bootstrap.mailCatalog

/-- The application of the release. -/
def mailApp : App where
  state := .create "app-1" "mails" 1 "owner-1" .empty Bootstrap.mailCatalog "storyflow.app"
  stories := .ofEntries [("a.story", Bootstrap.sendStory.definition)]
  entrypoints := ["a.story"]
  config := {}

/-- If the mailer cannot be started, the line that asks for it is not dispatched. -/
theorem mailApp_waits_for_mailer :
    App.create mailDefinition {} = .ok mailApp ∧
      let runtime : AppRuntime Unit Unit Http.Replies := { scriptedRuntime with
        containers := ScriptedContainers.runtime {
          failures := .ofEntries [("mailer", .containerStart "no image")] } }
      let left := (mailApp.bootstrap runtime).carryOut ⟨{}, (), (), ∅⟩
      Trace.dispatches left.trace = [] ∧
        .startEnded ⟨"a.story", "1", "mailer", "send"⟩ (some (.containerStart "no image")) ∈
          left.trace := by
  have hcreate : App.create mailDefinition {} = .ok mailApp := rfl
  refine ⟨hcreate, ?_⟩
  intro runtime left
  obtain ⟨⟨rest, hgated⟩, -, -⟩ := bootstrap_is_gated hcreate runtime ⟨{}, (), (), ∅⟩
  have hended : .startEnded ⟨"a.story", "1", "mailer", "send"⟩ (some (.containerStart "no image")) ∈
      (mailApp.started runtime ⟨{}, (), (), ∅⟩).trace := by
    decide +kernel
  have hcut : left.trace = (mailApp.started runtime ⟨{}, (), (), ∅⟩).trace := by
    rw [hgated.cut, hgated.failed _ _ hended, List.append_nil]
  exact ⟨hcut ▸ hgated.silent, hcut ▸ hended⟩

/-- A release whose only story has a line without a service off its walk. -/
def strayDefinition : AppDefinition where
  appId := "app-1"
  appDns := "strays"
  version := 1
  ownerUuid := "owner-1"
  stories := {
    stories := .ofEntries [("a.story", {
      tree := .ofEntries [
        ("1", { ln := "1", method := .set }),
        ("2", { ln := "2", method := .execute })]
      entrypoint := some "1" })]
    entrypoint := ["a.story"] }

/-- An `execute` line that does not resolve keeps no line from being dispatched if it stands off the
walk of its story. -/
theorem stray_line_is_passed_over :
    ∃ app : App, App.create strayDefinition {} = .ok app ∧
      (∃ story ∈ app.allStories, ∃ line, story.Has line ∧
        story.app.catalog.Unresolvable line .noService) ∧
      let left := (app.bootstrap scriptedRuntime).carryOut ⟨{}, (), (), ∅⟩
      left.value.toOption = some () ∧ Trace.dispatches left.trace = [("a.story", "1")] := by
  refine ⟨_, rfl, ⟨_, List.mem_cons_self .., { ln := "2", method := .execute }, ?_, ?_⟩, ?_⟩
  · rfl
  · exact .noService rfl rfl
  · decide +kernel

end App

end StoryEngine

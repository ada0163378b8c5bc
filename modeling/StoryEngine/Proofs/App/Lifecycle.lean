import StoryEngine.Proofs.App.Unsubscribing
import StoryEngine.Proofs.Bootstrap.Stories
import StoryEngine.Proofs.Interpreter.Kept

/-!
# The life of an application

Whatever is done with an application, it can be torn down. The broker is asked once, every
subscription that is registered then has its turn whatever the broker says, and the registry is
empty afterwards. It stays empty until something is registered again, so that to tear the
application down once more is to ask the broker once more.
-/

namespace StoryEngine

/-- Whether a registry has only what another one has. -/
def Registry.Within (later earlier : Registry) : Prop :=
  ∀ id subscription, later.get? id = some subscription → earlier.get? id = some subscription

namespace Registry.Within

/-- A registry has what it has. -/
theorem refl (registry : Registry) : registry.Within registry :=
  fun _ _ hfound => hfound

/-- What stays registered through two steps is registered before the first one. -/
theorem trans {last later earlier : Registry} (h : last.Within later) (h' : later.Within earlier) :
    last.Within earlier :=
  fun id subscription hfound => h' id subscription (h id subscription hfound)

/-- Dropping a subscription registers none. -/
theorem erase (registry : Registry) (id : String) : (registry.erase id).Within registry := by
  intro other subscription hfound
  rw [get?_erase] at hfound
  split at hfound
  · cases hfound
  · exact hfound

/-- Dropping every subscription registers none. -/
theorem clear (registry other : Registry) : registry.clear.Within other := by
  intro id subscription hfound
  rw [get?_clear] at hfound
  cases hfound

/-- A registry that has only what an empty one has lists nothing. -/
theorem snapshot_eq_nil {registry : Registry} (h : registry.Within {}) :
    registry.snapshot = [] := by
  rw [List.eq_nil_iff_forall_not_mem]
  intro subscription hlisted
  have hfound := h _ _ (mem_snapshot.mp hlisted)
  cases (get?_clear {} subscription.id).symm.trans hfound

end Registry.Within

section

variable {τ α β : Type} {registry : τ → Registry}

/-- Whether a run leaves nothing registered that was not registered before it. -/
def RegistersNothing (registry : τ → Registry) (run : Run τ α) : Prop :=
  ∀ s, (registry (run.carryOut s).state).Within (registry s)

namespace RegistersNothing

/-- A run that leaves the state as it is registers nothing. -/
theorem of_state_eq {run : Run τ α} (h : ∀ s, registry (run.carryOut s).state = registry s) :
    RegistersNothing registry run := by
  intro s
  rw [h]
  exact .refl _

/-- A run registers nothing if what it starts with does not and nothing that can follow does. -/
theorem bind {run : Run τ α} {next : α → Run τ β} (hrun : RegistersNothing registry run)
    (hnext : ∀ value, RegistersNothing registry (next value)) :
    RegistersNothing registry (run >>= next) := by
  intro s
  rw [Run.carryOut_bind]
  cases (run.carryOut s).value with
  | error stop => exact hrun s
  | ok value => exact (hnext value _).trans (hrun s)

end RegistersNothing

end

section

variable {σ κ η : Type}

/-- Whether a dispatcher registers no subscription for any line. -/
def Dispatcher.RegistersNone (dispatcher : Dispatcher σ) : Prop :=
  ∀ story line, RegistersNothing RunState.registry (dispatcher story line)

/-- The interpreter keeps that runs register nothing. -/
theorem Interpreter.registersNothing_kept :
    Kept (σ := σ) fun {_} run => RegistersNothing RunState.registry run where
  pure _ := .of_state_eq fun _ => rfl
  throw _ := .of_state_eq fun _ => rfl
  emit _ := .of_state_eq fun _ => by rw [Run.carryOut_emit]
  bindVariable _ _ := .of_state_eq fun _ => by
    rw [bindVariable, Run.carryOut_ofAct, Act.run_modify]
  bind := .bind

/-- Stories that run one after another register nothing if their dispatcher does not. -/
theorem Bootstrap.runStories_registersNothing {dispatcher : Dispatcher σ}
    (hnone : dispatcher.RegistersNone) (fuel : Nat) (stories : List Story) :
    RegistersNothing Shared.registry (runStories fuel dispatcher stories) := by
  induction stories with
  | nil => exact .of_state_eq fun _ => rfl
  | cons story rest ih =>
    intro shared
    have hfirst : ((runAlone fuel dispatcher story).carryOut shared).state.registry.Within
        shared.registry :=
      Interpreter.registersNothing_kept.walk hnone story fuel story.firstLine (freshScope shared)
    rw [carryOut_runStories_cons]
    cases ((runAlone fuel dispatcher story).carryOut shared).value with
    | error stop => exact hfirst
    | ok value => exact (ih _).trans hfirst

end

/-- Something that is done with an application while it lives. -/
inductive Operation where
  | add (id : String) (service : StreamingService) (event : String) (payload : Json)
    (now : Timestamp)
  | remove (id : String)
  | unsubscribeAll
  | bootstrap
  | destroy

namespace App

open Teardown

variable {σ κ η : Type}

/-- Carries an operation out; what it answers is for others to look at. -/
def perform (app : App) (runtime : AppRuntime σ κ η) : Operation → Act Event (Live σ κ η) Unit
  | .add id service event payload now => addSubscription id service event payload now
  | .remove id => do let _ ← removeSubscription id
  | .unsubscribeAll => do let _ ← app.unsubscribeAll runtime
  | .bootstrap => do let _ ← (app.bootstrap runtime).run
  | .destroy => do let _ ← app.destroy runtime

/-- Carries operations out one after another. -/
def performAll (app : App) (runtime : AppRuntime σ κ η) :
    List Operation → Act Event (Live σ κ η) Unit
  | [] => pure ()
  | operation :: rest => do
    app.perform runtime operation
    performAll app runtime rest

/-- Tears an application down and ends its subscriptions in a given order. -/
def destroyIn (app : App) (runtime : AppRuntime σ κ η) (order : List Subscription) :
    Act Event (Live σ κ η) TeardownReport := do
  let clearedAll ← app.clearWithBroker runtime
  let unsubscribe ← app.unsubscribeIn runtime order
  Live.onRegistry (Act.modify Registry.clear)
  pure { clearedAll, unsubscribe }

/-- An application is torn down with its subscriptions in the order of a snapshot: the broker does
not touch the registry. -/
theorem destroy_run (app : App) (runtime : AppRuntime σ κ η) (live : Live σ κ η) :
    (app.destroy runtime).run live = (app.destroyIn runtime live.registry.snapshot).run live :=
  rfl

/-- The request that asks the broker to drop every subscription of an application. -/
def clearRequest (app : App) : Http.Request where
  method := "POST"
  url := s!"http://{app.config.synapseHost}:{app.config.synapsePort.toNat}/clear_all"
  headers := [("Content-Type", "application/json; charset=utf-8")]
  body := some (Json.obj [("app_id", .str app.state.appId)]).compact

/-- The request to the broker can be made for every application. -/
theorem json_eq_clearRequest (app : App) :
    Http.Request.json "POST" app.config.clearAllUrl (.obj [("app_id", .str app.state.appId)]) =
      .ok app.clearRequest := by
  have hmethod : Http.isToken "POST" = true := by decide +kernel
  have hupper : Text.uppercase "POST" = "POST" := by decide +kernel
  rw [Http.Request.json, hmethod, hupper]
  rfl

/-- The call to the broker, and the answer to it. -/
def asked (app : App) (runtime : AppRuntime σ κ η) (live : Live σ κ η) :
    Acted Http.Event η Http.Reply :=
  (runtime.http app.config.httpMaxAttempts app.clearRequest).run live.http

/-- What ending subscriptions leaves after the call to the broker. -/
def ended (app : App) (runtime : AppRuntime σ κ η) (order : List Subscription)
    (live : Live σ κ η) : Acted Event (Live σ κ η) UnsubscribeReport :=
  (app.unsubscribeIn runtime order).run { live with http := (app.asked runtime live).state }

/-- The broker is asked once, and its answer is the answer to the call. -/
theorem clearWithBroker_run (app : App) (runtime : AppRuntime σ κ η) (live : Live σ κ η) :
    let left := (app.clearWithBroker runtime).run live
    (left.value = true ↔ Http.Succeeded (app.asked runtime live).value) ∧
      left.state = { live with http := (app.asked runtime live).state } ∧
      ∃ records : List LogRecord, left.trace =
        .fetched app.config.httpMaxAttempts app.clearRequest ::
          ((app.asked runtime live).trace.map .http ++ records.map .logged) := by
  simp only [clearWithBroker, Teardown.clearAll, json_eq_clearRequest, Live.run_onHttp]
  rcases fetchLogged_cases runtime.http app.config.httpMaxAttempts app.clearRequest
    "Failed to unsubscribe all with broker" [("app_id", .text app.state.appId)] live.http with
    ⟨hanswer, hfetch⟩ | ⟨hanswer, cause, hfetch⟩
  · rw [hfetch]
    exact ⟨iff_of_true rfl hanswer, rfl, [], by simp [asked]⟩
  · rw [hfetch]
    exact ⟨iff_of_false nofun hanswer, rfl, [_], rfl⟩

/-- What an application leaves when it is torn down. -/
structure Destroys (app : App) (runtime : AppRuntime σ κ η) (order : List Subscription)
    (live : Live σ κ η) (left : Acted Event (Live σ κ η) TeardownReport) : Prop where
  /-- What is reported about the broker is its answer. -/
  clearedAll : left.value.clearedAll = true ↔ Http.Succeeded (app.asked runtime live).value
  /-- Whatever that is, every subscription that is registered at the call has its turn. -/
  unsubscribes : app.Unsubscribes runtime order
    { live with http := (app.asked runtime live).state } (app.ended runtime order live)
  /-- What is reported about the subscriptions is the count of the turns. -/
  report : left.value.unsubscribe = (app.ended runtime order live).value
  /-- The first request of all is the one to the broker, and no other one comes before the turns. -/
  trace : ∃ records : List LogRecord, left.trace =
    .fetched app.config.httpMaxAttempts app.clearRequest ::
        ((app.asked runtime live).trace.map .http ++ records.map .logged) ++
      (app.ended runtime order live).trace
  /-- The registry is emptied when the turns are over. -/
  state : left.state = { (app.ended runtime order live).state with registry := {} }

/-- Tearing an application down ends the registered subscriptions, in whatever order a snapshot
lists them. -/
theorem destroys_of_perm (app : App) (runtime : AppRuntime σ κ η) (live : Live σ κ η)
    {order : List Subscription} (hperm : order.Perm live.registry.snapshot) :
    app.Destroys runtime order live ((app.destroyIn runtime order).run live) := by
  obtain ⟨hvalue, hstate, records, htrace⟩ := app.clearWithBroker_run runtime live
  have hleft : (app.destroyIn runtime order).run live =
      ⟨⟨((app.clearWithBroker runtime).run live).value, (app.ended runtime order live).value⟩,
        { (app.ended runtime order live).state with registry := {} },
        ((app.clearWithBroker runtime).run live).trace ++
          (app.ended runtime order live).trace⟩ := by
    simp only [destroyIn, Act.run_bind, Act.run_pure, Live.run_onRegistry, Act.run_modify, hstate,
      List.append_nil]
    rfl
  rw [hleft]
  constructor
  case clearedAll => exact hvalue
  case unsubscribes => exact app.unsubscribes_of_perm runtime _ hperm
  case report => rfl
  case trace => exact ⟨records, by rw [htrace]⟩
  case state => rfl

/-- Where nothing is registered, the broker is asked and nothing else is done. -/
theorem Destroys.of_nil {app : App} {runtime : AppRuntime σ κ η} {live : Live σ κ η}
    {left : Acted Event (Live σ κ η) TeardownReport} (h : app.Destroys runtime [] live left) :
    Trace.fetches left.trace = [(app.config.httpMaxAttempts, app.clearRequest)] ∧
      left.value.unsubscribe = {} := by
  obtain ⟨turns, haccounts⟩ := h.unsubscribes.accounts
  obtain rfl : turns = [] := List.map_eq_nil_iff.mp haccounts.each
  constructor
  · obtain ⟨records, htrace⟩ := h.trace
    have hsilent : (app.ended runtime [] live).trace = [] := haccounts.trace
    have hrecords : Trace.fetches (records.map .logged) = [] :=
      Trace.filterMap_map_eq_nil (fun _ => rfl) records
    rw [htrace, hsilent, List.append_nil]
    show _ :: Trace.fetches ((app.asked runtime live).trace.map .http ++ records.map .logged) = _
    rw [Trace.fetches_append, Trace.fetches_map_http, hrecords]
    rfl
  · obtain ⟨hskipped, hsucceeded, hfailed⟩ := haccounts.counts
    have hattempted := haccounts.balance
    rw [hsucceeded, hfailed] at hattempted
    rw [h.report]
    cases hreport : (app.ended runtime [] live).value with
    | mk attempted succeeded failed skipped =>
      simp only [hreport, List.countP_nil] at hskipped hsucceeded hfailed hattempted
      rw [hskipped, hsucceeded, hfailed, hattempted]

/-- A start of an application registers nothing if its dispatcher does not. -/
theorem bootstrap_registersNothing (app : App) {runtime : AppRuntime σ κ η}
    (hnone : runtime.dispatcher.RegistersNone) :
    RegistersNothing Live.registry (app.bootstrap runtime) := by
  have hfound (names : List String) : RegistersNothing (τ := Live σ κ η) Live.registry
      (Run.ofExcept (names.mapM app.story)) := by
    cases names.mapM app.story <;> exact .of_state_eq fun _ => rfl
  refine .bind (.bind (hfound _) fun stories => .of_state_eq fun _ => rfl) fun _ => ?_
  refine .bind (hfound _) fun stories live => ?_
  exact Bootstrap.runStories_registersNothing hnone app.lineCount stories
    ⟨live.registry, live.dispatcher⟩

end App

/-- Whether an operation is no registration and runs no line that registers something. -/
def Operation.RegistersNone {σ : Type} (dispatcher : Dispatcher σ) : Operation → Prop
  | add .. => False
  | bootstrap => dispatcher.RegistersNone
  | remove _ | unsubscribeAll | destroy => True

namespace App

variable {σ κ η : Type} {runtime : AppRuntime σ κ η}

/-- An operation that registers nothing leaves what was registered, or less. -/
theorem perform_within (app : App) {operation : Operation}
    (hnone : operation.RegistersNone runtime.dispatcher) (live : Live σ κ η) :
    ((app.perform runtime operation).run live).state.registry.Within live.registry := by
  cases operation with
  | add => exact hnone.elim
  | remove id =>
    cases hfound : live.registry.get? id with
    | none =>
      simp [perform, removeSubscription, Registry.remove_of_get?_eq_none hfound,
        Registry.Within.refl]
    | some subscription =>
      simp [perform, removeSubscription, Registry.remove_of_get? hfound, Registry.Within.erase]
  | unsubscribeAll => exact .refl _
  | bootstrap => exact app.bootstrap_registersNothing hnone live
  | destroy => exact .clear live.registry _

/-- Operations that register nothing leave what was registered, or less. -/
theorem performAll_within (app : App) {operations : List Operation}
    (hnone : ∀ operation ∈ operations, operation.RegistersNone runtime.dispatcher)
    (live : Live σ κ η) :
    ((app.performAll runtime operations).run live).state.registry.Within live.registry := by
  induction operations generalizing live with
  | nil => exact .refl _
  | cons operation rest ih =>
    have hfirst := app.perform_within (hnone operation (List.mem_cons_self ..)) live
    have hrest := ih (fun other hother => hnone other (List.mem_cons_of_mem _ hother))
      ((app.perform runtime operation).run live).state
    exact hrest.trans hfirst

/-- Whatever was done with an application before, tearing it down asks the broker once and then ends
every subscription that is registered, in whatever order they are listed, before the registry is
emptied. After operations that register nothing, tearing it down again asks the broker and does
nothing else. -/
theorem destroy_loses_nothing (app : App) (runtime : AppRuntime σ κ η) (start : Live σ κ η)
    (history : List Operation) {order : List Subscription} {between : List Operation}
    (hperm : order.Perm ((app.performAll runtime history).run start).state.registry.snapshot)
    (hbetween : ∀ operation ∈ between, operation.RegistersNone runtime.dispatcher) :
    let live := ((app.performAll runtime history).run start).state
    let first := (app.destroyIn runtime order).run live
    let again := ((app.performAll runtime between).run first.state).state
    let second := (app.destroy runtime).run again
    app.Destroys runtime order live first ∧
      app.Destroys runtime live.registry.snapshot live ((app.destroy runtime).run live) ∧
      app.Destroys runtime [] again second ∧
      Trace.fetches second.trace = [(app.config.httpMaxAttempts, app.clearRequest)] ∧
      second.value.unsubscribe = {} := by
  intro live first again second
  have hempty : again.registry.snapshot = [] :=
    Registry.Within.snapshot_eq_nil (app.performAll_within hbetween first.state)
  have hsecond : app.Destroys runtime [] again second := by
    rw [← hempty]
    exact app.destroys_of_perm runtime again (.refl _)
  exact ⟨app.destroys_of_perm runtime live hperm, app.destroys_of_perm runtime live (.refl _),
    hsecond, hsecond.of_nil⟩

/-- After two registrations and a teardown that the broker does not take part in, a start and the
removal of an id leave nothing for a second teardown. -/
theorem feed_is_destroyed :
    let history : List Operation := [.add "s-1" feedService "post" .null ⟨0, 0, 0⟩,
      .add "s-2" feedService "like" .null ⟨0, 0, 0⟩]
    let replies : Http.Replies :=
      .ofEntries [("http://synapse:80/clear_all", [.error (.httpTransport "connection refused")])]
    let live := ((feedApp.performAll scriptedRuntime history).run ⟨{}, (), (), replies⟩).state
    let first := (feedApp.destroyIn scriptedRuntime live.registry.snapshot.reverse).run live
    let between : List Operation := [.bootstrap, .remove "s-1"]
    let again := ((feedApp.performAll scriptedRuntime between).run first.state).state
    let second := (feedApp.destroy scriptedRuntime).run again
    first.value = {
        clearedAll := false
        unsubscribe := { attempted := 1, succeeded := 1, skipped := 1 } } ∧
      first.state.registry = {} ∧ (Trace.fetches second.trace).length = 1 ∧
      second.value.unsubscribe = {} := by
  intro history replies live first between again second
  have hnone : scriptedRuntime.dispatcher.RegistersNone := fun _ _ _ => .refl _
  have hbetween : ∀ operation ∈ between, operation.RegistersNone scriptedRuntime.dispatcher := by
    intro operation hoperation
    simp only [between, List.mem_cons, List.not_mem_nil, or_false] at hoperation
    rcases hoperation with rfl | rfl
    · exact hnone
    · trivial
  obtain ⟨hfirst, -, -, hfetches, hreport⟩ := destroy_loses_nothing feedApp scriptedRuntime
    ⟨{}, (), (), replies⟩ history (List.reverse_perm _) hbetween
  refine ⟨by decide +kernel, ?_, ?_, hreport⟩
  · rw [show first.state = _ from hfirst.state]
  · rw [hfetches]
    rfl

end App

end StoryEngine

import StoryEngine.Proofs.App.Lifecycle

/-!
# Teardown in any order

Which subscription meets which answer depends on the order in which the subscriptions are ended,
since some of them may share a URL. What the whole leaves does not: two calls in a row get the same
two answers between them, whichever is made first, and any order is reached from any other one by
exchanging neighbours.
-/

namespace StoryEngine

namespace Http

variable {η : Type}

/-- Whether two calls in a row are answered with the same two replies, and leave the same, whichever
of them is made first. -/
def Interchanges (client : Client η) (budget : UInt32) : Prop :=
  ∀ (first second : Request) (s : η),
    let answered := (client budget first).run s
    let later := (client budget second).run answered.state
    let answered' := (client budget second).run s
    let later' := (client budget first).run answered'.state
    later.state = later'.state ∧
      [answered.value, later.value].Perm [later'.value, answered'.value]

namespace Replies

/-- The reply to a URL is not used up by another one. -/
theorem take_fst_of_ne {url other : String} (hne : url ≠ other) (replies : Replies) :
    ((replies.take url).2.take other).1 = (replies.take other).1 := by
  rw [take_fst, take_fst, getElem?_take, if_neg hne]

/-- The replies that are left do not tell in which order two of them were given. -/
theorem take_snd_comm (replies : Replies) (url other : String) :
    ((replies.take url).2.take other).2 = ((replies.take other).2.take url).2 := by
  refine Std.ExtTreeMap.ext_getElem? fun key => ?_
  simp only [getElem?_take]
  split <;> split <;> rfl

/-- Calls that are answered from scripted replies can be made in either order. -/
theorem client_interchanges (budget : UInt32) : Interchanges Replies.client budget := by
  intro first second replies
  refine ⟨take_snd_comm replies first.url second.url, ?_⟩
  show [(replies.take first.url).1, ((replies.take first.url).2.take second.url).1].Perm
    [((replies.take second.url).2.take first.url).1, (replies.take second.url).1]
  by_cases heq : first.url = second.url
  · rw [heq]
    exact .swap _ _ _
  · rw [take_fst_of_ne heq, take_fst_of_ne (Ne.symm heq)]

end Replies

end Http

/-- Whether two acts leave the same, but for the order of the requests given to the HTTP client. -/
structure SameButForOrder {σ α : Type} (left other : Acted Event σ α) : Prop where
  value : left.value = other.value
  state : left.state = other.state
  fetches : (Trace.fetches left.trace).Perm (Trace.fetches other.trace)

namespace Teardown

variable {η : Type}

/-- What comes of a subscription whose request is answered with a reply. -/
def handlingOf : Http.Reply → Handling
  | .ok response => if response.isSuccess then .succeeded else .failed
  | .error _ => .failed

/-- What the turn of a subscription takes from the state of the client: nothing, or the answer to
one call, which is the same one in every state. -/
inductive Takes (client : Http.Client η) (budget : UInt32) (turn : Act Event η Handling) : Prop
  | nothing (handling : Handling)
      (hturn : ∀ s, (turn.run s).value = handling ∧ (turn.run s).state = s ∧
        Trace.fetches (turn.run s).trace = [])
  | answer (request : Http.Request)
      (hturn : ∀ s, (turn.run s).value = handlingOf ((client budget request).run s).value ∧
        (turn.run s).state = ((client budget request).run s).state ∧
        Trace.fetches (turn.run s).trace = [(budget, request)])

/-- A reply of success is what it takes for a subscription to succeed. -/
theorem handlingOf_eq_succeeded {reply : Http.Reply} :
    handlingOf reply = .succeeded ↔ Http.Succeeded reply := by
  cases reply with
  | error error =>
    refine iff_of_false nofun ?_
    rintro ⟨_, ⟨⟩, -⟩
  | ok response =>
    rw [handlingOf]
    cases hsuccess : response.isSuccess with
    | true => exact iff_of_true rfl ⟨response, rfl, (isSuccess_iff response).mp hsuccess⟩
    | false =>
      refine iff_of_false nofun ?_
      rintro ⟨_, ⟨⟩, hstatus⟩
      rw [(isSuccess_iff response).mpr hstatus] at hsuccess
      cases hsuccess

/-- No subscription whose request is sent is skipped. -/
theorem handlingOf_eq_failed {reply : Http.Reply} :
    handlingOf reply = .failed ↔ ¬ Http.Succeeded reply := by
  rw [← handlingOf_eq_succeeded]
  cases reply with
  | error error => exact iff_of_true rfl nofun
  | ok response =>
    rw [handlingOf]
    cases response.isSuccess with
    | true => exact iff_of_false nofun fun h => h rfl
    | false => exact iff_of_true rfl nofun

/-- The turn of a subscription takes one answer if its request can be made, else nothing. -/
theorem unsubscribe_takes (client : Http.Client η) (config : AppConfig) (catalog : Catalog)
    (subscription : Subscription) :
    Takes client config.httpMaxAttempts (unsubscribe client config catalog subscription) := by
  cases hrequest : unsubscribeRequest catalog subscription with
  | none =>
    refine .nothing .skipped fun s => ?_
    have hrun : (unsubscribe client config catalog subscription).run s = ⟨.skipped, s, []⟩ := by
      simp only [unsubscribe, hrequest, Act.run_pure]
    rw [hrun]
    exact ⟨rfl, rfl, rfl⟩
  | some made =>
    cases made with
    | error error =>
      refine .nothing .failed fun s => ?_
      have hrun : ∃ record, (unsubscribe client config catalog subscription).run s =
          ⟨.failed, s, [.logged record]⟩ := by
        simp only [unsubscribe, hrequest]
        exact ⟨_, rfl⟩
      obtain ⟨record, hrun⟩ := hrun
      rw [hrun]
      exact ⟨rfl, rfl, rfl⟩
    | ok request =>
      refine .answer request fun s => ?_
      have hrun : (unsubscribe client config catalog subscription).run s =
          let left := (fetchLogged client config.httpMaxAttempts request "Failed to unsubscribe"
            [("subscription_id", .text subscription.id),
              ("service", .text subscription.service.name)]).run s
          ⟨if left.value then .succeeded else .failed, left.state, left.trace⟩ := by
        simp only [unsubscribe, hrequest, Act.run_bind]
        split <;> simp
      rw [hrun]
      rcases fetchLogged_cases client config.httpMaxAttempts request "Failed to unsubscribe"
        [("subscription_id", .text subscription.id), ("service", .text subscription.service.name)] s
        with ⟨hanswer, hleft⟩ | ⟨hanswer, cause, hleft⟩
      · rw [hleft]
        refine ⟨(handlingOf_eq_succeeded.mpr hanswer).symm, rfl, ?_⟩
        show (_, request) :: Trace.fetches _ = _
        rw [Trace.fetches_map_http]
      · rw [hleft]
        refine ⟨(handlingOf_eq_failed.mpr hanswer).symm, rfl, ?_⟩
        show (_, request) :: Trace.fetches (_ ++ _) = _
        rw [Trace.fetches_append, Trace.fetches_map_http]
        rfl

/-- Whether two turns in a row leave the same between them, whichever is first. -/
structure Exchange (first second : Act Event η Handling) (s : η) : Prop where
  state : (second.run (first.run s).state).state = (first.run (second.run s).state).state
  handlings : [(first.run s).value, (second.run (first.run s).state).value].Perm
    [(first.run (second.run s).state).value, (second.run s).value]
  /-- What is asked in the first turn is asked in it when it comes later. -/
  asked_first : Trace.fetches (first.run s).trace =
    Trace.fetches (first.run (second.run s).state).trace
  /-- What is asked in the second turn is asked in it when it comes before. -/
  asked_second : Trace.fetches (second.run (first.run s).state).trace =
    Trace.fetches (second.run s).trace

theorem Exchange.symm {first second : Act Event η Handling} {s : η} (h : Exchange first second s) :
    Exchange second first s where
  state := h.state.symm
  handlings := (List.Perm.swap ..).trans (h.handlings.symm.trans (.swap ..))
  asked_first := h.asked_second.symm
  asked_second := h.asked_first.symm

section

variable {client : Http.Client η} {budget : UInt32} {first second : Act Event η Handling}

/-- A turn that takes nothing from the client can be exchanged with any other one. -/
theorem exchange_of_nothing {handling : Handling}
    (hfirst : ∀ s, (first.run s).value = handling ∧ (first.run s).state = s ∧
      Trace.fetches (first.run s).trace = []) (s : η) : Exchange first second s := by
  obtain ⟨hvalue, hstate, hfetches⟩ := hfirst s
  obtain ⟨hvalue', hstate', hfetches'⟩ := hfirst (second.run s).state
  constructor
  case state => rw [hstate, hstate']
  case handlings => rw [hstate, hvalue, hvalue']
  case asked_first => rw [hfetches, hfetches']
  case asked_second => rw [hstate]

/-- Turns can be exchanged if the calls of the client can. -/
theorem Takes.exchange (hclient : Http.Interchanges client budget)
    (hfirst : Takes client budget first) (hsecond : Takes client budget second) (s : η) :
    Exchange first second s := by
  cases hfirst with
  | nothing _ hfirst => exact exchange_of_nothing hfirst s
  | answer request hfirst =>
    cases hsecond with
    | nothing _ hsecond => exact (exchange_of_nothing hsecond s).symm
    | answer request' hsecond =>
      obtain ⟨hstate, hanswers⟩ := hclient request request' s
      have hafter : (first.run s).state = ((client budget request).run s).state := (hfirst s).2.1
      have hafter' : (second.run s).state = ((client budget request').run s).state :=
        (hsecond s).2.1
      constructor
      case state => rw [(hsecond _).2.1, (hfirst (second.run s).state).2.1, hafter, hafter', hstate]
      case handlings =>
        rw [(hfirst s).1, (hsecond (first.run s).state).1, (hfirst (second.run s).state).1,
          (hsecond s).1, hafter, hafter']
        exact hanswers.map handlingOf
      case asked_first => rw [(hfirst _).2.2, (hfirst _).2.2]
      case asked_second => rw [(hsecond _).2.2, (hsecond _).2.2]

end

/-- Whether two acts leave the same but for the order of what came of each subscription and of the
requests. -/
structure SameTurns (left other : Acted Event η (List Handling)) : Prop where
  handlings : left.value.Perm other.value
  state : left.state = other.state
  fetches : (Trace.fetches left.trace).Perm (Trace.fetches other.trace)

namespace SameTurns

variable {left other last : Acted Event η (List Handling)}

theorem refl (left : Acted Event η (List Handling)) : SameTurns left left :=
  ⟨.refl _, rfl, .refl _⟩

theorem trans (h : SameTurns left other) (hlast : SameTurns other last) : SameTurns left last :=
  ⟨h.handlings.trans hlast.handlings, h.state.trans hlast.state, h.fetches.trans hlast.fetches⟩

end SameTurns

section

variable {client : Http.Client η} {config : AppConfig} {catalog : Catalog}

/-- After the same first turn, what is the same later is the same on the whole. -/
theorem sameTurns_cons {rest other : List Subscription} (subscription : Subscription)
    (hrest : ∀ s, SameTurns ((unsubscribeEach client config catalog rest).run s)
      ((unsubscribeEach client config catalog other).run s)) (s : η) :
    SameTurns ((unsubscribeEach client config catalog (subscription :: rest)).run s)
      ((unsubscribeEach client config catalog (subscription :: other)).run s) := by
  have hlater := hrest ((unsubscribe client config catalog subscription).run s).state
  simp only [unsubscribeEach, Act.run_bind, Act.run_pure, List.append_nil]
  refine ⟨hlater.handlings.cons _, hlater.state, ?_⟩
  rw [Trace.fetches_append, Trace.fetches_append]
  exact hlater.fetches.append_left _

/-- What two turns in a row leave for those that follow does not tell which was first. -/
theorem sameTurns_swap (hclient : Http.Interchanges client config.httpMaxAttempts)
    (first second : Subscription) (rest : List Subscription) (s : η) :
    SameTurns ((unsubscribeEach client config catalog (first :: second :: rest)).run s)
      ((unsubscribeEach client config catalog (second :: first :: rest)).run s) := by
  have hexchange : Exchange (unsubscribe client config catalog first)
      (unsubscribe client config catalog second) s :=
    (unsubscribe_takes client config catalog first).exchange hclient
      (unsubscribe_takes client config catalog second) s
  simp only [unsubscribeEach, Act.run_bind, Act.run_pure, List.append_nil]
  rw [hexchange.state]
  constructor
  case handlings =>
    refine (hexchange.handlings.append_right _).trans ?_
    exact .swap _ _ _
  case state => rfl
  case fetches =>
    simp only [Trace.fetches_append, hexchange.asked_first, hexchange.asked_second]
    rw [← List.append_assoc, ← List.append_assoc]
    exact List.perm_append_comm.append_right _

/-- If the calls of the client can be exchanged, subscriptions can be ended in any order. -/
theorem sameTurns_of_perm (hclient : Http.Interchanges client config.httpMaxAttempts)
    {order other : List Subscription} (hperm : order.Perm other) (s : η) :
    SameTurns ((unsubscribeEach client config catalog order).run s)
      ((unsubscribeEach client config catalog other).run s) := by
  induction hperm generalizing s with
  | nil => exact .refl _
  | cons subscription _ ih => exact sameTurns_cons subscription ih s
  | swap first second rest => exact sameTurns_swap hclient second first rest s
  | trans _ _ ih ih' => exact (ih s).trans (ih' s)

/-- The counts do not depend on the order in which the subscriptions are ended. -/
theorem ofHandlings_of_perm {handlings other : List Handling} (hperm : handlings.Perm other) :
    UnsubscribeReport.ofHandlings handlings = UnsubscribeReport.ofHandlings other := by
  simp only [UnsubscribeReport.ofHandlings, hperm.countP_eq, hperm.count_eq]

end

end Teardown

namespace App

open Teardown

variable {σ κ η : Type}

section

variable {runtime : AppRuntime σ κ η} {order other : List Subscription}

/-- Ending the same subscriptions in another order leaves the same. -/
theorem same_unsubscribeIn (app : App)
    (hclient : Http.Interchanges runtime.http app.config.httpMaxAttempts)
    (hperm : order.Perm other) (live : Live σ κ η) :
    SameButForOrder ((app.unsubscribeIn runtime order).run live)
      ((app.unsubscribeIn runtime other).run live) := by
  have hturns : SameTurns
      ((unsubscribeEach runtime.http app.config app.state.catalog order).run live.http)
      ((unsubscribeEach runtime.http app.config app.state.catalog other).run live.http) :=
    sameTurns_of_perm hclient hperm live.http
  simp only [unsubscribeIn, Live.run_onHttp, Teardown.unsubscribeAll, Act.run_map]
  constructor
  case value => exact ofHandlings_of_perm hturns.handlings
  case state => rw [hturns.state]
  case fetches => exact hturns.fetches

/-- A teardown that ends the same subscriptions in another order leaves the same. -/
theorem same_destroyIn (app : App)
    (hclient : Http.Interchanges runtime.http app.config.httpMaxAttempts)
    (hperm : order.Perm other) (live : Live σ κ η) :
    SameButForOrder ((app.destroyIn runtime order).run live)
      ((app.destroyIn runtime other).run live) := by
  have hsame := app.same_unsubscribeIn hclient hperm ((app.clearWithBroker runtime).run live).state
  simp only [destroyIn, Act.run_bind, Act.run_pure, Live.run_onRegistry, Act.run_modify,
    List.append_nil]
  constructor
  case value => rw [hsame.value]
  case state => rw [hsame.state]
  case fetches =>
    rw [Trace.fetches_append, Trace.fetches_append]
    exact hsame.fetches.append_left _

/-- The call to the broker comes before all calls for subscriptions. -/
theorem fetches_destroyIn (app : App) (runtime : AppRuntime σ κ η) (live : Live σ κ η)
    (hperm : order.Perm live.registry.snapshot) :
    Trace.fetches ((app.destroyIn runtime order).run live).trace =
      (app.config.httpMaxAttempts, app.clearRequest) ::
        Trace.fetches (app.ended runtime order live).trace := by
  obtain ⟨records, htrace⟩ := (app.destroys_of_perm runtime live hperm).trace
  have hrecords : Trace.fetches (records.map .logged) = [] :=
    Trace.filterMap_map_eq_nil (fun _ => rfl) records
  rw [htrace, Trace.fetches_append]
  show _ :: Trace.fetches (_ ++ records.map .logged) ++ _ = _
  rw [Trace.fetches_append, Trace.fetches_map_http, hrecords]
  rfl

end

/-- Collaborators of which the HTTP client answers from scripted replies. -/
def repliesRuntime (dispatcher : Dispatcher σ) (containers : ContainerRuntime κ) :
    AppRuntime σ κ Http.Replies where
  dispatcher := dispatcher
  containers := containers
  http := Http.Replies.client

/-- Whatever replies are scripted for the URLs, and however the subscriptions share these, ending
the registered subscriptions leaves the same report, the same requests and the same replies for
later in every order in which a snapshot may list them. So does a teardown, whose call to the broker
comes first in every order, whatever its URL. The application lists its subscriptions by id. -/
theorem teardown_in_any_order (app : App) (dispatcher : Dispatcher σ)
    (containers : ContainerRuntime κ) (live : Live σ κ Http.Replies)
    {order other : List Subscription} (horder : order.Perm live.registry.snapshot)
    (hother : other.Perm live.registry.snapshot) :
    let runtime := repliesRuntime dispatcher containers
    let first := (app.config.httpMaxAttempts, app.clearRequest)
    SameButForOrder ((app.unsubscribeIn runtime order).run live)
        ((app.unsubscribeIn runtime other).run live) ∧
      SameButForOrder ((app.unsubscribeIn runtime order).run live)
        ((app.unsubscribeAll runtime).run live) ∧
      SameButForOrder ((app.destroyIn runtime order).run live)
        ((app.destroyIn runtime other).run live) ∧
      SameButForOrder ((app.destroyIn runtime order).run live) ((app.destroy runtime).run live) ∧
      ∃ calls calls', calls.Perm calls' ∧
        Trace.fetches ((app.destroyIn runtime order).run live).trace = first :: calls ∧
        Trace.fetches ((app.destroyIn runtime other).run live).trace = first :: calls' := by
  intro runtime first
  have hclient : Http.Interchanges runtime.http app.config.httpMaxAttempts :=
    Http.Replies.client_interchanges _
  have hperm : order.Perm other := horder.trans hother.symm
  have hcalls := app.same_destroyIn hclient hperm live
  refine ⟨app.same_unsubscribeIn hclient hperm live, ?_, hcalls, ?_, ?_⟩
  · rw [unsubscribeAll_run]
    exact app.same_unsubscribeIn hclient horder live
  · rw [destroy_run]
    exact app.same_destroyIn hclient horder live
  · have hfirst := app.fetches_destroyIn runtime live horder
    have hfirst' := app.fetches_destroyIn runtime live hother
    refine ⟨_, _, ?_, hfirst, hfirst'⟩
    have hfetches := hcalls.fetches
    rw [hfirst, hfirst'] at hfetches
    exact hfetches.cons_inv

/-- An application that is the broker of its own feed: the URL to end a subscription to a post is
the one to clear all of them. -/
def ownBrokerApp : App where
  state := .create "app-1" "feeds" 1 "owner-1" .empty {
    services := .ofEntries [("feed", { config := { actions := .ofEntries [("watch", {
      events := .ofEntries [("post", { http := some {
        port := some 8080
        unsubscribe := some { path := "/clear_all" } } })] })] } })] } "storyflow.app"
  stories := ∅
  entrypoints := []
  config := { synapseHost := "feed-1.local", synapsePort := 8080 }

/-- Of three replies to one URL the broker gets the first, which is a success. Of the subscriptions
the one that is listed first fails and the other one succeeds, so that the report is the same while
the errors are about different subscriptions. -/
theorem ownBroker_fails_one_of_two :
    let registry := (({} : Registry).add "s-1" feedService "post" .null ⟨0, 0, 0⟩).add "s-2"
      feedService "post" .null ⟨0, 0, 0⟩
    let replies : Http.Replies := .ofEntries [("http://feed-1.local:8080/clear_all",
      [.ok ⟨200, ""⟩, .ok ⟨500, ""⟩, .ok ⟨204, ""⟩])]
    let live : Live Unit Unit Http.Replies := ⟨registry, (), (), replies⟩
    let runtime := repliesRuntime (fun _ _ => pure .nothing) (ScriptedContainers.runtime {})
    let left := (ownBrokerApp.destroyIn runtime registry.snapshot).run live
    let left' := (ownBrokerApp.destroyIn runtime registry.snapshot.reverse).run live
    left.value = {
      clearedAll := true
      unsubscribe := { attempted := 2, succeeded := 1, failed := 1 } } ∧
      SameButForOrder left left' ∧
      (Trace.ownLogs left.trace).map LogRecord.aboutSubscription =
        [(.error, some (.text "s-1"))] ∧
      (Trace.ownLogs left'.trace).map LogRecord.aboutSubscription =
        [(.error, some (.text "s-2"))] := by
  intro registry replies live runtime left left'
  refine ⟨by decide +kernel, ?_, by decide +kernel, by decide +kernel⟩
  exact (teardown_in_any_order ownBrokerApp (fun _ _ => pure .nothing)
    (ScriptedContainers.runtime {}) live (.refl _) (List.reverse_perm _)).2.2.1

end App

end StoryEngine

import StoryEngine.Proofs.App.Lifecycle
import StoryEngine.Proofs.Http.Retries

/-!
# Teardown over a client that retries

The sends of a teardown fall into rounds: one for the call to the broker, then one for each
subscription whose request can be made. A round repeats one request until a send decides, with the
whole budget for itself, whatever became of the rounds before it. Each goes on with the transport
where the one before it left it.
-/

namespace StoryEngine

namespace Http

variable {τ : Type}

/-- The sends that a client makes of one request. -/
structure Round (τ : Type) where
  request : Request
  /-- The state of the transport before the first send. -/
  before : τ
  /-- How often the request is sent. -/
  size : Nat

namespace Round

/-- The requests given to the transport: each time the same one. -/
def sends (round : Round τ) : List Request :=
  List.replicate round.size round.request

/-- The state of the transport after the last send. -/
def after (transport : Transport τ) (round : Round τ) : τ :=
  stateAfter transport round.request round.before round.size

/-- The reply to the last send. -/
def lastReply (transport : Transport τ) (round : Round τ) : Reply :=
  replyTo transport round.request round.before round.size

/-- Whether a round has the whole budget: its last send is the first one that the transport does not
fail, or else the last one that the budget allows. -/
def Settles (transport : Transport τ) (budget : UInt32) (round : Round τ) : Prop :=
  Decides (replyTo transport round.request round.before) (max 1 budget.toNat) round.size

end Round

/-- Whether rounds lead a transport from one state to another, each from where the one before it
left it. -/
def Chained (transport : Transport τ) (s final : τ) : List (Round τ) → Prop
  | [] => s = final
  | round :: later => round.before = s ∧ Chained transport (round.after transport) final later

variable {transport : Transport τ}

/-- Rounds that lead from one state to another, and rounds that lead on from there, lead all the
way. -/
theorem Chained.append {s mid final : τ} {rounds later : List (Round τ)}
    (h : Chained transport s mid rounds) (hlater : Chained transport mid final later) :
    Chained transport s final (rounds ++ later) := by
  induction rounds generalizing s with
  | nil =>
    obtain rfl : s = mid := h
    exact hlater
  | cons round rest ih =>
    obtain ⟨hbefore, hrest⟩ := h
    exact ⟨hbefore, ih hrest⟩

/-- The answer to a call is a success if the reply to its deciding send is. -/
theorem succeeded_answer_iff {request : Request} {attempts : UInt32} {reply : Reply} :
    Succeeded (answer request attempts reply) ↔ Succeeded reply := by
  unfold answer
  split
  · rename_i detail hfailed
    rw [eq_of_transportFailure? hfailed]
    constructor <;>
    · rintro ⟨_, hresponse, -⟩
      cases hresponse
  · rfl

/-- A client that retries makes one round of sends for a call. -/
theorem exists_round (policy : RetryPolicy) (transport : Transport τ) (budget : UInt32)
    (request : Request) (s : τ) :
    let left := (retrying policy transport budget request).run s
    ∃ round : Round τ, round.request = request ∧ round.before = s ∧
      round.Settles transport budget ∧ Event.sends left.trace = round.sends ∧
      left.state = round.after transport ∧
      (Succeeded left.value ↔ Succeeded (round.lastReply transport)) := by
  obtain ⟨number, hdecides, hrun⟩ := retrying_run policy transport budget request s
  rw [hrun]
  exact ⟨⟨request, s, number⟩, rfl, rfl, hdecides, sends_settled hdecides.pos, rfl,
    succeeded_answer_iff⟩

/-- Rounds of a budget have no more sends together than the budget allows for each of them. -/
theorem length_sends_le {budget : UInt32} {rounds : List (Round τ)}
    (hsettles : ∀ round ∈ rounds, round.Settles transport budget) :
    (rounds.flatMap Round.sends).length ≤ max 1 budget.toNat * rounds.length := by
  induction rounds with
  | nil => exact Nat.zero_le _
  | cons round rest ih =>
    obtain ⟨hround, hrest⟩ := List.forall_mem_cons.mp hsettles
    have hlater := ih hrest
    have hfirst : round.sends.length ≤ max 1 budget.toNat := by
      rw [Round.sends, List.length_replicate]
      exact hround.le
    rw [List.flatMap_cons, List.length_append, List.length_cons, Nat.mul_succ]
    omega

end Http

/-- The events of an HTTP client are those that it left. -/
@[simp] theorem Trace.httpEvents_map_http (events : List Http.Event) :
    httpEvents (events.map .http) = events := by
  rw [httpEvents, List.filterMap_map]
  exact List.filterMap_some

namespace Teardown

open Http (Round Chained Transport RetryPolicy Succeeded)

variable {τ : Type}

/-- Whether the catalog declares an endpoint that ends a subscription. -/
def HasEndpoint (catalog : Catalog) (subscription : Subscription) : Prop :=
  ∃ http endpoint, Declared catalog subscription http endpoint

/-- Whether a request is the one that ends a subscription: its endpoint is declared, and the request
can be made. -/
def Calls (catalog : Catalog) (subscription : Subscription) (request : Http.Request) : Prop :=
  ∃ http endpoint, Declared catalog subscription http endpoint ∧
    Http.isToken (callMethod endpoint) = true ∧ request = callRequest subscription http endpoint

/-- A subscription has an endpoint if a call has a target. -/
theorem hasEndpoint_iff {catalog : Catalog} {subscription : Subscription} :
    HasEndpoint catalog subscription ↔
      (catalog.unsubscribeTarget? subscription.service.name subscription.service.command
        subscription.event).isSome := by
  rw [Option.isSome_iff_exists]
  simp only [unsubscribeTarget?_eq_some]
  constructor
  · rintro ⟨http, endpoint, hdeclared⟩
    exact ⟨_, http, endpoint, hdeclared, rfl⟩
  · rintro ⟨_, http, endpoint, hdeclared, -⟩
    exact ⟨http, endpoint, hdeclared⟩

instance (catalog : Catalog) : DecidablePred (HasEndpoint catalog) :=
  fun _ => decidable_of_iff _ hasEndpoint_iff.symm

/-- What a teardown has done about a subscription. -/
structure Share (τ : Type) where
  subscription : Subscription
  handling : Handling
  /-- The sends of its request, if it can be made. -/
  round : Option (Round τ)

/-- What is done about a subscription is due to it. -/
structure Share.Due (transport : Transport τ) (catalog : Catalog) (share : Share τ) : Prop where
  /-- The request that is sent is the one that ends the subscription. -/
  request : ∀ request, share.round.map Round.request = some request ↔
    Calls catalog share.subscription request
  /-- It takes a response with a status of success, in reply to the last send, to succeed. -/
  succeeded : share.handling = .succeeded ↔
    ∃ round, share.round = some round ∧ Succeeded (round.lastReply transport)
  /-- A subscription without an endpoint is skipped, and no other one. -/
  skipped : share.handling = .skipped ↔ ¬ HasEndpoint catalog share.subscription

section

variable {transport : Transport τ} {catalog : Catalog} {subscription : Subscription}

/-- There is one request at most that ends a subscription, and it is that of the endpoint which is
declared. -/
theorem calls_iff {http : EventHttp} {endpoint : Endpoint} {request : Http.Request}
    (hdeclared : Declared catalog subscription http endpoint) :
    Calls catalog subscription request ↔ Http.isToken (callMethod endpoint) = true ∧
      callRequest subscription http endpoint = request := by
  constructor
  · rintro ⟨other, otherEndpoint, hother, hmethod, rfl⟩
    obtain ⟨rfl, rfl⟩ := hdeclared.unique hother
    exact ⟨hmethod, rfl⟩
  · rintro ⟨hmethod, rfl⟩
    exact ⟨http, endpoint, hdeclared, hmethod, rfl⟩

/-- What is done about a subscription whose request can be made is due to it if the last send decides
whether it succeeded. -/
theorem due_of_round {http : EventHttp} {endpoint : Endpoint} {handling : Handling}
    {round : Round τ} (hdeclared : Declared catalog subscription http endpoint)
    (hmethod : Http.isToken (callMethod endpoint) = true)
    (hrequest : round.request = callRequest subscription http endpoint)
    (hskipped : handling ≠ .skipped)
    (hsucceeded : handling = .succeeded ↔ Succeeded (round.lastReply transport)) :
    Share.Due transport catalog ⟨subscription, handling, some round⟩ := by
  constructor
  case request =>
    intro request
    rw [calls_iff hdeclared, Option.map_some, hrequest, Option.some_inj]
    exact (and_iff_right hmethod).symm
  case succeeded =>
    rw [hsucceeded]
    constructor
    · intro hreply
      exact ⟨round, rfl, hreply⟩
    · rintro ⟨_, ⟨⟩, hreply⟩
      exact hreply
  case skipped => exact iff_of_false hskipped fun hnone => hnone ⟨http, endpoint, hdeclared⟩

/-- A turn whose request is sent is one round of sends, if what is done about the subscription is what
its call was answered with. -/
theorem exists_share_of_call {policy : RetryPolicy} {budget : UInt32} {s : τ} {http : EventHttp}
    {endpoint : Endpoint} {answered : Acted Http.Event τ Http.Reply}
    {left : Acted Event τ Handling} (hdeclared : Declared catalog subscription http endpoint)
    (hmethod : Http.isToken (callMethod endpoint) = true)
    (hran : (Http.retrying policy transport budget (callRequest subscription http endpoint)).run s =
      answered)
    (hskipped : left.value ≠ .skipped)
    (hsucceeded : left.value = .succeeded ↔ Succeeded answered.value)
    (hstate : left.state = answered.state)
    (htrace : Trace.httpEvents left.trace = answered.trace) :
    ∃ share : Share τ, share.subscription = subscription ∧ share.handling = left.value ∧
      share.Due transport catalog ∧
      (∀ round ∈ share.round.toList, round.Settles transport budget) ∧
      Http.Event.sends (Trace.httpEvents left.trace) = share.round.toList.flatMap Round.sends ∧
      Chained transport s left.state share.round.toList := by
  obtain ⟨round, hrequest, hbefore, hsettles, hsends, hafter, hreply⟩ :=
    Http.exists_round policy transport budget (callRequest subscription http endpoint) s
  rw [hran] at hsends hafter hreply
  refine ⟨⟨subscription, left.value, some round⟩, rfl, rfl, ?_, ?_, ?_, hbefore, ?_⟩
  · exact due_of_round hdeclared hmethod hrequest hskipped (hsucceeded.trans hreply)
  · exact List.forall_mem_singleton.mpr hsettles
  · rw [htrace, hsends, Option.toList_some, List.flatMap_singleton]
  · exact (hstate.trans hafter).symm

/-- With a client that retries, the turn of a subscription is one round of sends or none. -/
theorem Ends.exists_share {policy : RetryPolicy} {budget : UInt32} {s : τ}
    {left : Acted Event τ Handling}
    (h : Ends (Http.retrying policy transport) budget catalog subscription s left) :
    ∃ share : Share τ, share.subscription = subscription ∧ share.handling = left.value ∧
      share.Due transport catalog ∧
      (∀ round ∈ share.round.toList, round.Settles transport budget) ∧
      Http.Event.sends (Trace.httpEvents left.trace) = share.round.toList.flatMap Round.sends ∧
      Chained transport s left.state share.round.toList := by
  cases h with
  | skipped hnone =>
    refine ⟨⟨subscription, .skipped, none⟩, rfl, rfl, ?_, List.forall_mem_nil _, rfl, rfl⟩
    constructor
    case request =>
      intro request
      refine iff_of_false nofun ?_
      rintro ⟨http, endpoint, hdeclared, -⟩
      exact hnone http endpoint hdeclared
    case succeeded => exact iff_of_false nofun nofun
    case skipped =>
      refine iff_of_true rfl ?_
      rintro ⟨http, endpoint, hdeclared⟩
      exact hnone http endpoint hdeclared
  | @unbuildable http endpoint record hdeclared hmethod =>
    refine ⟨⟨subscription, .failed, none⟩, rfl, rfl, ?_, List.forall_mem_nil _, rfl, rfl⟩
    constructor
    case request =>
      intro request
      rw [calls_iff hdeclared, hmethod]
      exact iff_of_false nofun fun hcalls => nomatch hcalls.1
    case succeeded => exact iff_of_false nofun nofun
    case skipped => exact iff_of_false nofun fun hnone => hnone ⟨http, endpoint, hdeclared⟩
  | succeeded hdeclared hmethod hran hanswer =>
    exact exists_share_of_call hdeclared hmethod hran nofun (iff_of_true rfl hanswer) rfl
      (Trace.httpEvents_map_http _)
  | @failed http endpoint answered record hdeclared hmethod hran hanswer =>
    refine exists_share_of_call hdeclared hmethod hran nofun (iff_of_false nofun hanswer) rfl ?_
    show Trace.httpEvents (answered.trace.map .http ++ [.logged record]) = answered.trace
    rw [Trace.httpEvents_append, Trace.httpEvents_map_http]
    exact List.append_nil _

/-- The rounds of some shares, in order. -/
def rounds (shares : List (Share τ)) : List (Round τ) :=
  shares.flatMap fun share => share.round.toList

/-- With a client that retries, turns that follow each other are rounds that follow each other. -/
theorem exists_shares {policy : RetryPolicy} {budget : UInt32} {s final : τ} {turns : List (Turn τ)}
    (hends : ∀ turn ∈ turns, Ends (Http.retrying policy transport) budget catalog
      turn.subscription turn.before turn.left)
    (hfollow : Follow s final turns) :
    ∃ shares : List (Share τ), shares.map Share.subscription = turns.map Turn.subscription ∧
      shares.map Share.handling = turns.map (·.left.value) ∧
      (∀ share ∈ shares, share.Due transport catalog) ∧
      (∀ round ∈ rounds shares, round.Settles transport budget) ∧
      Http.Event.sends (Trace.httpEvents (turns.flatMap fun turn => turn.left.trace)) =
        (rounds shares).flatMap Round.sends ∧
      Chained transport s final (rounds shares) := by
  induction turns generalizing s with
  | nil => exact ⟨[], rfl, rfl, List.forall_mem_nil _, List.forall_mem_nil _, rfl, hfollow⟩
  | cons turn rest ih =>
    obtain ⟨hturn, hlater⟩ := List.forall_mem_cons.mp hends
    obtain ⟨hbefore, hfollow⟩ := hfollow
    obtain ⟨share, heach, hhandling, hdue, hsettles, hsends, hchained⟩ := hturn.exists_share
    obtain ⟨shares, heach', hhandling', hdue', hsettles', hsends', hchained'⟩ := ih hlater hfollow
    rw [hbefore] at hchained
    refine ⟨share :: shares, ?_, ?_, List.forall_mem_cons.mpr ⟨hdue, hdue'⟩, ?_, ?_,
      hchained.append hchained'⟩
    · rw [List.map_cons, List.map_cons, heach, heach']
    · rw [List.map_cons, List.map_cons, hhandling, hhandling']
    · intro round hround
      rcases List.mem_append.mp hround with hround | hround
      · exact hsettles round hround
      · exact hsettles' round hround
    · rw [List.flatMap_cons, Trace.httpEvents_append, Http.Event.sends_append, hsends, hsends',
        ← List.flatMap_append]
      rfl

/-- There are no more rounds than subscriptions with an endpoint. -/
theorem length_rounds_le {shares : List (Share τ)}
    (hdue : ∀ share ∈ shares, share.Due transport catalog) :
    (rounds shares).length ≤ (shares.map Share.subscription).countP (HasEndpoint catalog ·) := by
  induction shares with
  | nil => exact Nat.le_refl 0
  | cons share rest ih =>
    obtain ⟨hshare, hrest⟩ := List.forall_mem_cons.mp hdue
    have hlater := ih hrest
    have hlength : (rounds (share :: rest)).length =
        share.round.toList.length + (rounds rest).length := List.length_append
    rw [List.map_cons, List.countP_cons, hlength]
    cases hround : share.round with
    | none =>
      rw [Option.toList_none, List.length_nil]
      omega
    | some round =>
      obtain ⟨http, endpoint, hdeclared, -⟩ := (hshare.request round.request).mp (by rw [hround]; rfl)
      have hendpoint : HasEndpoint catalog share.subscription := ⟨http, endpoint, hdeclared⟩
      rw [Option.toList_some, List.length_singleton, if_pos (decide_eq_true hendpoint)]
      omega

end

end Teardown

namespace App

open Teardown Http

variable {σ κ τ : Type}

/-- What the sends of a teardown are, given the round of the call to the broker and the shares of
the subscriptions. -/
structure SendsInRounds (app : App) (transport : Transport τ) (order : List Subscription)
    (live : Live σ κ τ) (left : Acted Event (Live σ κ τ) TeardownReport) (clear : Round τ)
    (shares : List (Share τ)) : Prop where
  /-- The first round is that of the call to the broker. -/
  clear_request : clear.request = app.clearRequest
  /-- Each subscription has its share. -/
  each : shares.map Share.subscription = order
  /-- What is done about a subscription depends on its own sends only. -/
  due : ∀ share ∈ shares, share.Due transport app.state.catalog
  /-- The requests given to the transport are those of the rounds. -/
  sends : Event.sends (Trace.httpEvents left.trace) =
    (clear :: rounds shares).flatMap Round.sends
  /-- Each round has the whole budget. -/
  settles : ∀ round ∈ clear :: rounds shares, round.Settles transport app.config.httpMaxAttempts
  /-- The transport is used in the rounds only. -/
  chained : Chained transport live.http left.state.http (clear :: rounds shares)
  /-- The broker has dropped all if the reply to the last send of its round says so. -/
  clearedAll : left.value.clearedAll = true ↔ Succeeded (clear.lastReply transport)
  /-- What is reported about the subscriptions is what came of their rounds. -/
  report : left.value.unsubscribe = .ofHandlings (shares.map Share.handling)
  /-- No more is sent than the budget allows for the broker and for each endpoint. -/
  bound : (Event.sends (Trace.httpEvents left.trace)).length ≤
    max 1 app.config.httpMaxAttempts.toNat *
      (1 + order.countP (HasEndpoint app.state.catalog ·))

/-- An application that works with a client that retries. -/
def retryingRuntime (policy : RetryPolicy) (transport : Transport τ) (dispatcher : Dispatcher σ)
    (containers : ContainerRuntime κ) : AppRuntime σ κ τ where
  dispatcher := dispatcher
  containers := containers
  http := retrying policy transport

section

variable (app : App) (policy : RetryPolicy) (transport : Transport τ) (dispatcher : Dispatcher σ)
  (containers : ContainerRuntime κ) (live : Live σ κ τ)

/-- The sends of a teardown are rounds, in whatever order a snapshot lists the subscriptions. -/
theorem exists_rounds {order : List Subscription} (hperm : order.Perm live.registry.snapshot) :
    ∃ clear shares, app.SendsInRounds transport order live
      ((app.destroyIn (retryingRuntime policy transport dispatcher containers) order).run live)
      clear shares := by
  let runtime := retryingRuntime policy transport dispatcher containers
  obtain ⟨hclearedAll, -, hreport, ⟨records, htrace⟩, hstate⟩ :=
    app.destroys_of_perm runtime live hperm
  obtain ⟨clear, hrequest, hbefore, hclear, hsends, hafter, hreply⟩ :=
    exists_round policy transport app.config.httpMaxAttempts app.clearRequest live.http
  let handled := (unsubscribeEach runtime.http app.config app.state.catalog order).run
    (app.asked runtime live).state
  have hended : app.ended runtime order live =
      ⟨.ofHandlings handled.value, { live with http := handled.state }, handled.trace⟩ := by
    simp only [ended, unsubscribeIn, Live.run_onHttp, Teardown.unsubscribeAll, Act.run_map]
    rfl
  rw [hended] at hreport htrace hstate
  obtain ⟨turns, heach, hends, hfollow, hturns, hvalue⟩ := exists_turns runtime.http app.config
    app.state.catalog order (app.asked runtime live).state
  obtain ⟨shares, hsubscriptions, hhandlings, hdue, hsettles, hrounds, hchained⟩ :=
    exists_shares hends hfollow
  have hall : ∀ round ∈ clear :: rounds shares, round.Settles transport app.config.httpMaxAttempts :=
    List.forall_mem_cons.mpr ⟨hclear, hsettles⟩
  have hsent : Event.sends (Trace.httpEvents
      ((app.destroyIn runtime order).run live).trace) =
        (clear :: rounds shares).flatMap Round.sends := by
    have hlogged : Trace.httpEvents (records.map .logged) = [] :=
      Trace.filterMap_map_eq_nil (fun _ => rfl) records
    rw [htrace, hturns, Trace.httpEvents_append, Event.sends_append, hrounds]
    show Event.sends (Trace.httpEvents
      ((app.asked runtime live).trace.map .http ++ records.map .logged)) ++ _ = _
    rw [Trace.httpEvents_append, Trace.httpEvents_map_http, hlogged, List.append_nil]
    exact congrArg (· ++ _) hsends
  have hcount : (rounds shares).length ≤ order.countP (HasEndpoint app.state.catalog ·) := by
    rw [← heach, ← hsubscriptions]
    exact length_rounds_le hdue
  refine ⟨clear, shares, ?_⟩
  constructor
  case clear_request => exact hrequest
  case each => rw [hsubscriptions, heach]
  case due => exact hdue
  case sends => exact hsent
  case settles => exact hall
  case chained =>
    refine ⟨hbefore, ?_⟩
    rw [hstate, ← hafter]
    exact hchained
  case clearedAll => exact hclearedAll.trans hreply
  case report => rw [hreport, hvalue, hhandlings]
  case bound =>
    rw [hsent]
    calc
      _ ≤ max 1 app.config.httpMaxAttempts.toNat * (clear :: rounds shares).length :=
        length_sends_le hall
      _ ≤ _ := Nat.mul_le_mul_left _ (by rw [List.length_cons]; omega)

/-- Whatever a transport replies, the sends of a teardown over a client that retries are rounds. Each
has the whole budget of attempts for itself, and the last send of a subscription's own round decides
whether it succeeded. -/
theorem destroy_sends_in_rounds {order : List Subscription}
    (hperm : order.Perm live.registry.snapshot) :
    let runtime := retryingRuntime policy transport dispatcher containers
    (∃ clear shares, app.SendsInRounds transport order live
      ((app.destroyIn runtime order).run live) clear shares) ∧
    ∃ clear shares, app.SendsInRounds transport live.registry.snapshot live
      ((app.destroy runtime).run live) clear shares := by
  intro runtime
  refine ⟨app.exists_rounds policy transport dispatcher containers live hperm, ?_⟩
  rw [destroy_run]
  exact app.exists_rounds policy transport dispatcher containers live (.refl _)

end

/-- Over a transport that fails four times, the call to the broker uses its three attempts up, and
the one subscription with an endpoint still has two of its own. -/
theorem feed_is_sent_in_rounds :
    let live : Live Unit Unit Nat := ⟨feedRegistry, (), (), 4⟩
    let runtime := retryingRuntime .immediate flaky (fun _ _ => pure .nothing)
      (ScriptedContainers.runtime {})
    let left := (feedApp.destroyIn runtime feedRegistry.snapshot.reverse).run live
    left.value = {
        clearedAll := false
        unsubscribe := { attempted := 1, succeeded := 1, skipped := 1 } } ∧
      (Event.sends (Trace.httpEvents left.trace)).length = 5 ∧
      ∃ clear shares, feedApp.SendsInRounds flaky feedRegistry.snapshot.reverse live left clear
        shares := by
  intro live runtime left
  refine ⟨by decide +kernel, by decide +kernel, ?_⟩
  exact (destroy_sends_in_rounds feedApp .immediate flaky (fun _ _ => pure .nothing)
    (ScriptedContainers.runtime {}) live (List.reverse_perm _)).1

end App

end StoryEngine

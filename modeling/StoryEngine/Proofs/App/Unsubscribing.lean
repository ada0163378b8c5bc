import StoryEngine.App.Basic
import StoryEngine.Bootstrap.Containers
import StoryEngine.Http.Scripted

/-!
# Ending every subscription

Each registered subscription has one turn. What happens in it depends on what the catalog declares
about its event and on the answer of the client, and no turn keeps a later one from being taken. The
report counts the turns, and the log names the subscriptions whose turn failed.
-/

namespace StoryEngine

/-- How severe a record is, and the subscription that it names. -/
def LogRecord.aboutSubscription (record : LogRecord) : LogLevel × Option LogValue :=
  (record.level, record.fields.lookup "subscription_id")

/-- The log records of the engine itself. -/
def Trace.ownLogs (trace : Trace) : List LogRecord :=
  trace.filterMap fun
    | .logged record => some record
    | _ => none

@[simp] theorem Trace.ownLogs_append (a b : Trace) : ownLogs (a ++ b) = ownLogs a ++ ownLogs b :=
  List.filterMap_append

/-- What an HTTP client logs is not of the engine. -/
@[simp] theorem Trace.ownLogs_map_http (events : List Http.Event) :
    ownLogs (events.map .http) = [] :=
  filterMap_map_eq_nil (fun _ => rfl) events

/-- An HTTP client gives no request to itself. -/
@[simp] theorem Trace.fetches_map_http (events : List Http.Event) :
    fetches (events.map .http) = [] :=
  filterMap_map_eq_nil (fun _ => rfl) events

/-- The path of the catalog to the endpoint that ends subscriptions to an event: from the service to
the command, the event, its HTTP settings and the endpoint. -/
inductive Catalog.Declares (catalog : Catalog) (service command event : String) (http : EventHttp)
    (endpoint : Endpoint) : Prop
  | path {definition : ServiceDefinition} {action : ActionConfig} {config : EventConfig}
      (hservice : catalog.services[service]? = some definition)
      (hcommand : definition.config.actions[command]? = some action)
      (hevent : action.events[event]? = some config)
      (hhttp : config.http = some http)
      (hendpoint : http.unsubscribe = some endpoint)

/-- Whether a request was answered with a status of success. -/
def Http.Succeeded (reply : Http.Reply) : Prop :=
  ∃ response, reply = .ok response ∧ 200 ≤ response.status.toNat ∧ response.status.toNat < 300

namespace Teardown

variable {η : Type}

/-- What the catalog declares about ending a subscription. -/
def Declared (catalog : Catalog) (subscription : Subscription) (http : EventHttp)
    (endpoint : Endpoint) : Prop :=
  catalog.Declares subscription.service.name subscription.service.command subscription.event http
    endpoint

/-- The port of a call: that of the endpoint, or else that of the event, or else 80. -/
def callPort (http : EventHttp) (endpoint : Endpoint) : UInt16 :=
  match endpoint.port, http.port with
  | some port, _ => port
  | none, some port => port
  | none, none => 80

/-- The method of a call, which must be a token. -/
def callMethod (endpoint : Endpoint) : String :=
  Text.uppercase (endpoint.method.getD "POST")

/-- The body of a call: what the payload keeps for it, if it is an object that does. -/
def callBody : Json → Json
  | .obj members => (members.lookup "sub_body").getD .null
  | _ => .null

/-- The request that ends a subscription at an endpoint. -/
def callRequest (subscription : Subscription) (http : EventHttp) (endpoint : Endpoint) :
    Http.Request where
  method := Text.uppercase (callMethod endpoint)
  url :=
    s!"http://{subscription.service.hostname}:{(callPort http endpoint).toNat}{endpoint.path}"
  headers := [("Content-Type", "application/json; charset=utf-8")]
  body := some (callBody subscription.payload).compact

/-- What the turn of one subscription leaves, from a state of the client. -/
inductive Ends (client : Http.Client η) (budget : UInt32) (catalog : Catalog)
    (subscription : Subscription) (s : η) : Acted Event η Handling → Prop
  /-- No endpoint is declared, and nothing is done. -/
  | skipped (hnone : ∀ http endpoint, ¬ Declared catalog subscription http endpoint) :
      Ends client budget catalog subscription s ⟨.skipped, s, []⟩
  /-- The method is not a token, and no call is made. -/
  | unbuildable {http : EventHttp} {endpoint : Endpoint} {record : LogRecord}
      (hdeclared : Declared catalog subscription http endpoint)
      (hmethod : Http.isToken (callMethod endpoint) = false)
      (hrecord : record.aboutSubscription = (.error, some (.text subscription.id))) :
      Ends client budget catalog subscription s ⟨.failed, s, [.logged record]⟩
  /-- The call is answered with success. -/
  | succeeded {http : EventHttp} {endpoint : Endpoint} {answered : Acted Http.Event η Http.Reply}
      (hdeclared : Declared catalog subscription http endpoint)
      (hmethod : Http.isToken (callMethod endpoint) = true)
      (hran : (client budget (callRequest subscription http endpoint)).run s = answered)
      (hanswer : Http.Succeeded answered.value) :
      Ends client budget catalog subscription s
        ⟨.succeeded, answered.state,
          .fetched budget (callRequest subscription http endpoint) :: answered.trace.map .http⟩
  /-- The call is answered with another status, or not answered. -/
  | failed {http : EventHttp} {endpoint : Endpoint} {answered : Acted Http.Event η Http.Reply}
      {record : LogRecord}
      (hdeclared : Declared catalog subscription http endpoint)
      (hmethod : Http.isToken (callMethod endpoint) = true)
      (hran : (client budget (callRequest subscription http endpoint)).run s = answered)
      (hanswer : ¬ Http.Succeeded answered.value)
      (hrecord : record.aboutSubscription = (.error, some (.text subscription.id))) :
      Ends client budget catalog subscription s
        ⟨.failed, answered.state,
          .fetched budget (callRequest subscription http endpoint) ::
            (answered.trace.map .http ++ [.logged record])⟩

/-- The turn of a subscription: the state of the client before it, and what it leaves. -/
structure Turn (η : Type) where
  subscription : Subscription
  before : η
  left : Acted Event η Handling

/-- Whether turns follow each other from one state of the client to another. -/
def Follow (s final : η) : List (Turn η) → Prop
  | [] => s = final
  | turn :: later => turn.before = s ∧ Follow turn.left.state final later

/-- An account of the turns of some subscriptions. -/
structure Accounts (client : Http.Client η) (budget : UInt32) (catalog : Catalog)
    (order : List Subscription) (s : η) (left : Acted Event η UnsubscribeReport)
    (turns : List (Turn η)) : Prop where
  /-- Each subscription has its turn. -/
  each : turns.map Turn.subscription = order
  /-- What is done in a turn is due to its subscription. -/
  ends : ∀ turn ∈ turns, Ends client budget catalog turn.subscription turn.before turn.left
  /-- Those are skipped for which no endpoint is declared. -/
  skipped_iff : ∀ turn ∈ turns, turn.left.value = .skipped ↔
    ∀ http endpoint, ¬ Declared catalog turn.subscription http endpoint
  /-- If the request can be made, it is given to the client once, and a response with a status of
  success is what it takes to succeed. -/
  calls : ∀ turn ∈ turns, ∀ http endpoint, Declared catalog turn.subscription http endpoint →
    Http.isToken (callMethod endpoint) = true →
      let request := callRequest turn.subscription http endpoint
      Trace.fetches turn.left.trace = [(budget, request)] ∧
        (turn.left.value = .succeeded ↔
          Http.Succeeded ((client budget request).run turn.before).value)
  /-- The client is used in the turns only. -/
  follow : Follow s left.state turns
  /-- Nothing happens outside the turns. -/
  trace : left.trace = turns.flatMap fun turn => turn.left.trace
  /-- Each turn is counted by what came of it. -/
  counts : left.value.skipped = turns.countP (·.left.value = .skipped) ∧
    left.value.succeeded = turns.countP (·.left.value = .succeeded) ∧
    left.value.failed = turns.countP (·.left.value = .failed)
  /-- No subscription is counted twice or left out. -/
  total : left.value.attempted + left.value.skipped = order.length
  /-- Each attempt succeeded or failed. -/
  balance : left.value.attempted = left.value.succeeded + left.value.failed
  /-- The errors that are logged name the subscriptions whose turn failed, each once. -/
  errors : (Trace.ownLogs left.trace).map LogRecord.aboutSubscription =
    (turns.filter (·.left.value = .failed)).map fun turn =>
      (.error, some (.text turn.subscription.id))

/-- What is declared can be read off the settings of the event. -/
theorem declares_iff {catalog : Catalog} {service command event : String} {http : EventHttp}
    {endpoint : Endpoint} :
    catalog.Declares service command event http endpoint ↔
      catalog.eventHttp? service command event = some http ∧ http.unsubscribe = some endpoint := by
  constructor
  · rintro ⟨hservice, hcommand, hevent, hhttp, hendpoint⟩
    refine ⟨?_, hendpoint⟩
    simp [Catalog.eventHttp?, Catalog.action?, Catalog.service?, hservice, hcommand, hevent, hhttp]
  · rintro ⟨hhttp, hendpoint⟩
    simp only [Catalog.eventHttp?, Catalog.action?, Catalog.service?, Option.bind_eq_bind,
      Option.bind_eq_some_iff] at hhttp
    obtain ⟨action, ⟨definition, hservice, hcommand⟩, config, hevent, hhttp⟩ := hhttp
    exact .path hservice hcommand hevent hhttp hendpoint

/-- No two endpoints are declared for one event. -/
theorem Declared.unique {catalog : Catalog} {subscription : Subscription} {http other : EventHttp}
    {endpoint otherEndpoint : Endpoint} (h : Declared catalog subscription http endpoint)
    (hother : Declared catalog subscription other otherEndpoint) :
    http = other ∧ endpoint = otherEndpoint := by
  obtain ⟨hhttp, hendpoint⟩ := declares_iff.mp h
  obtain ⟨hhttp', hendpoint'⟩ := declares_iff.mp hother
  obtain rfl := Option.some.inj (hhttp.symm.trans hhttp')
  exact ⟨rfl, Option.some.inj (hendpoint.symm.trans hendpoint')⟩

/-- The target of a call is the endpoint with what it leaves open filled in. -/
theorem unsubscribeTarget?_eq_some {catalog : Catalog} {service command event : String}
    {target : UnsubscribeTarget} :
    catalog.unsubscribeTarget? service command event = some target ↔
      ∃ http endpoint, catalog.Declares service command event http endpoint ∧
        target = ⟨callMethod endpoint, callPort http endpoint, endpoint.path⟩ := by
  have hport (http : EventHttp) (endpoint : Endpoint) :
      (endpoint.port <|> http.port).getD Catalog.defaultPort = callPort http endpoint := by
    unfold callPort
    cases endpoint.port <;> cases http.port <;> rfl
  simp only [declares_iff, Catalog.unsubscribeTarget?, Option.bind_eq_bind, Option.bind_eq_some_iff,
    hport]
  constructor
  · rintro ⟨http, hhttp, endpoint, hendpoint, htarget⟩
    cases htarget
    exact ⟨http, endpoint, ⟨hhttp, hendpoint⟩, rfl⟩
  · rintro ⟨http, endpoint, ⟨hhttp, hendpoint⟩, rfl⟩
    exact ⟨http, hhttp, endpoint, hendpoint, rfl⟩

section

variable {client : Http.Client η} {config : AppConfig} {catalog : Catalog}
  {subscription : Subscription} {s : η}

/-- The body of a call is what the payload keeps for it. -/
theorem unsubscribeBody_eq (subscription : Subscription) :
    subscription.unsubscribeBody = callBody subscription.payload := by
  unfold Subscription.unsubscribeBody callBody
  cases subscription.payload <;> rfl

/-- No request is due where no endpoint is declared. -/
theorem unsubscribeRequest_of_none
    (hnone : ∀ http endpoint, ¬ Declared catalog subscription http endpoint) :
    unsubscribeRequest catalog subscription = none := by
  rw [unsubscribeRequest, Option.map_eq_none_iff, Option.eq_none_iff_forall_ne_some]
  intro target htarget
  obtain ⟨http, endpoint, hdeclared, -⟩ := unsubscribeTarget?_eq_some.mp htarget
  exact hnone http endpoint hdeclared

/-- Where an endpoint is declared, its request is due, if the method is a token. -/
theorem unsubscribeRequest_of_declared {http : EventHttp} {endpoint : Endpoint}
    (hdeclared : Declared catalog subscription http endpoint) :
    unsubscribeRequest catalog subscription = some
      (if Http.isToken (callMethod endpoint) then .ok (callRequest subscription http endpoint)
      else .error (.validation s!"Invalid HTTP method: {Text.quote (callMethod endpoint)}")) := by
  have htarget := unsubscribeTarget?_eq_some.mpr ⟨http, endpoint, hdeclared, rfl⟩
  rw [unsubscribeRequest, htarget, Option.map_some, Http.Request.json, unsubscribeBody_eq]
  rfl

/-- The statuses of success are those from 200 up to 299. -/
theorem isSuccess_iff (response : Http.Response) :
    response.isSuccess = true ↔
      200 ≤ response.status.toNat ∧ response.status.toNat < 300 := by
  have hquotient : response.status / 100 = 2 ↔ response.status.toNat / 100 = 2 := by
    rw [← UInt16.toNat_inj, UInt16.toNat_div]
    rfl
  rw [Http.Response.isSuccess, decide_eq_true_eq, hquotient]
  omega

/-- A request is given to the client once. It is answered with success, or else a record with the
cause is logged. -/
theorem fetchLogged_cases (client : Http.Client η) (budget : UInt32) (request : Http.Request)
    (message : String) (subject : List (String × LogValue)) (s : η) :
    let answered := (client budget request).run s
    let left := (fetchLogged client budget request message subject).run s
    Http.Succeeded answered.value ∧
        left = ⟨true, answered.state, .fetched budget request :: answered.trace.map .http⟩ ∨
      ¬ Http.Succeeded answered.value ∧ ∃ cause, left = ⟨false, answered.state,
        .fetched budget request :: (answered.trace.map .http ++
          [.logged { level := .error, message := message, fields := subject ++ [cause] }])⟩ := by
  simp only [fetchLogged, fetch, Act.run_bind, Act.run_emit, Act.run_relabel,
    List.singleton_append]
  cases hvalue : ((client budget request).run s).value with
  | error error =>
    refine Or.inr ⟨?_, errorCause error, by simp [logFailure]⟩
    rintro ⟨response, hresponse, -⟩
    cases hresponse
  | ok response =>
    by_cases hsuccess : response.isSuccess
    · exact Or.inl ⟨⟨response, rfl, (isSuccess_iff response).mp hsuccess⟩, by simp [hsuccess]⟩
    · refine Or.inr ⟨?_, statusCause response, by simp [hsuccess, logFailure]⟩
      rintro ⟨_, ⟨⟩, hstatus⟩
      exact hsuccess ((isSuccess_iff response).mpr hstatus)

/-- A subscription gets what is due to it. -/
theorem unsubscribe_ends (client : Http.Client η) (config : AppConfig) (catalog : Catalog)
    (subscription : Subscription) (s : η) :
    Ends client config.httpMaxAttempts catalog subscription s
      ((unsubscribe client config catalog subscription).run s) := by
  by_cases hdeclared : ∃ http endpoint, Declared catalog subscription http endpoint
  case neg =>
    have hnone http endpoint (h : Declared catalog subscription http endpoint) : False :=
      hdeclared ⟨http, endpoint, h⟩
    simp only [unsubscribe, unsubscribeRequest_of_none hnone]
    exact .skipped hnone
  obtain ⟨http, endpoint, hdeclared⟩ := hdeclared
  simp only [unsubscribe, unsubscribeRequest_of_declared hdeclared]
  cases hmethod : Http.isToken (callMethod endpoint) with
  | false => exact .unbuildable hdeclared hmethod rfl
  | true =>
    rcases fetchLogged_cases client config.httpMaxAttempts (callRequest subscription http endpoint)
      "Failed to unsubscribe" [("subscription_id", .text subscription.id),
        ("service", .text subscription.service.name)] s with
      ⟨hanswer, hleft⟩ | ⟨hanswer, cause, hleft⟩
    · simp only [if_true, Act.run_bind, hleft, Act.run_pure, List.append_nil]
      exact .succeeded hdeclared hmethod rfl hanswer
    · simp only [if_true, Act.run_bind, hleft, Bool.false_eq_true, if_false, Act.run_pure,
        List.append_nil]
      exact .failed hdeclared hmethod rfl hanswer rfl

/-- Subscriptions that are ended one after another have their turns in this order. -/
theorem exists_turns (client : Http.Client η) (config : AppConfig) (catalog : Catalog)
    (order : List Subscription) (s : η) :
    let left := (unsubscribeEach client config catalog order).run s
    ∃ turns : List (Turn η), turns.map Turn.subscription = order ∧
      (∀ turn ∈ turns,
        Ends client config.httpMaxAttempts catalog turn.subscription turn.before turn.left) ∧
      Follow s left.state turns ∧ (left.trace = turns.flatMap fun turn => turn.left.trace) ∧
      left.value = turns.map (·.left.value) := by
  induction order generalizing s with
  | nil => exact ⟨[], rfl, nofun, rfl, rfl, rfl⟩
  | cons subscription rest ih =>
    let left := (unsubscribe client config catalog subscription).run s
    obtain ⟨turns, heach, hends, hfollow, htrace, hvalue⟩ := ih left.state
    refine ⟨⟨subscription, s, left⟩ :: turns, ?_, ?_, ⟨rfl, hfollow⟩, ?_, ?_⟩
    · rw [List.map_cons, heach]
    · intro turn hturn
      rcases List.mem_cons.mp hturn with rfl | hturn
      · exact unsubscribe_ends client config catalog subscription s
      · exact hends turn hturn
    · rw [List.flatMap_cons, ← htrace]
      simp [unsubscribeEach, left]
    · rw [List.map_cons, ← hvalue]
      simp [unsubscribeEach, left]

/-- The turn of a subscription leaves an error about it if it failed, and no record otherwise. -/
theorem Ends.ownLogs_eq {budget : UInt32} {left : Acted Event η Handling}
    (h : Ends client budget catalog subscription s left) :
    (Trace.ownLogs left.trace).map LogRecord.aboutSubscription =
      if left.value = .failed then [(.error, some (.text subscription.id))] else [] := by
  have hcall (request : Http.Request) (events : List Http.Event) (rest : Trace) :
      Trace.ownLogs (.fetched budget request :: (events.map .http ++ rest)) =
        Trace.ownLogs rest := by
    show Trace.ownLogs (events.map .http ++ rest) = _
    rw [Trace.ownLogs_append, Trace.ownLogs_map_http, List.nil_append]
  cases h with
  | skipped => rfl
  | unbuildable _ _ hrecord => simp [Trace.ownLogs, hrecord]
  | succeeded =>
    rw [← List.append_nil (List.map Event.http _), hcall]
    rfl
  | failed _ _ _ _ hrecord =>
    rw [hcall]
    simp [Trace.ownLogs, hrecord]

/-- A subscription is skipped where no endpoint is declared for it. -/
theorem Ends.skipped_iff {budget : UInt32} {left : Acted Event η Handling}
    (h : Ends client budget catalog subscription s left) :
    left.value = .skipped ↔ ∀ http endpoint, ¬ Declared catalog subscription http endpoint := by
  cases h with
  | skipped hnone => exact iff_of_true rfl hnone
  | unbuildable hdeclared | succeeded hdeclared | failed hdeclared =>
    exact iff_of_false nofun fun hnone => hnone _ _ hdeclared

/-- A request that can be made is given to the client once, and its answer decides. -/
theorem Ends.calls {budget : UInt32} {left : Acted Event η Handling} {http : EventHttp}
    {endpoint : Endpoint} (h : Ends client budget catalog subscription s left)
    (hdeclared : Declared catalog subscription http endpoint)
    (hmethod : Http.isToken (callMethod endpoint) = true) :
    let request := callRequest subscription http endpoint
    Trace.fetches left.trace = [(budget, request)] ∧
      (left.value = .succeeded ↔ Http.Succeeded ((client budget request).run s).value) := by
  intro request
  have hfetches (events : List Http.Event) (rest : Trace) :
      Trace.fetches (.fetched budget request :: (events.map .http ++ rest)) =
        (budget, request) :: Trace.fetches rest := by
    show (budget, request) :: Trace.fetches (events.map .http ++ rest) = _
    rw [Trace.fetches_append, Trace.fetches_map_http, List.nil_append]
  cases h with
  | skipped hnone => exact absurd hdeclared (hnone http endpoint)
  | unbuildable hother hnot =>
    obtain ⟨rfl, rfl⟩ := hdeclared.unique hother
    rw [hmethod] at hnot
    cases hnot
  | succeeded hother _ hran hanswer =>
    obtain ⟨rfl, rfl⟩ := hdeclared.unique hother
    rw [← List.append_nil (List.map Event.http _), hfetches, hran]
    exact ⟨rfl, iff_of_true rfl hanswer⟩
  | failed hother _ hran hanswer =>
    obtain ⟨rfl, rfl⟩ := hdeclared.unique hother
    rw [hfetches, hran]
    exact ⟨rfl, iff_of_false nofun hanswer⟩

/-- The records that some turns leave are the errors of those that failed. -/
theorem ownLogs_flatMap {budget : UInt32} {turns : List (Turn η)}
    (hends : ∀ turn ∈ turns,
      Ends client budget catalog turn.subscription turn.before turn.left) :
    (Trace.ownLogs (turns.flatMap fun turn => turn.left.trace)).map LogRecord.aboutSubscription =
      (turns.filter (·.left.value = .failed)).map fun turn =>
        (.error, some (.text turn.subscription.id)) := by
  induction turns with
  | nil => rfl
  | cons turn rest ih =>
    have hturn := (hends turn (List.mem_cons_self ..)).ownLogs_eq
    have hrest := ih fun other hother => hends other (List.mem_cons_of_mem _ hother)
    rw [List.flatMap_cons, Trace.ownLogs_append, List.map_append, hturn, hrest]
    by_cases hfailed : turn.left.value = .failed <;> simp [hfailed]

end

/-- What was not skipped was attempted. -/
theorem attempted_add_skipped (handlings : List Handling) :
    (UnsubscribeReport.ofHandlings handlings).attempted +
      (UnsubscribeReport.ofHandlings handlings).skipped = handlings.length := by
  induction handlings with
  | nil => rfl
  | cons handling rest ih =>
    simp only [UnsubscribeReport.ofHandlings, decide_not] at ih ⊢
    cases handling <;> simp <;> omega

/-- What was attempted succeeded or failed. -/
theorem attempted_eq (handlings : List Handling) :
    (UnsubscribeReport.ofHandlings handlings).attempted =
      (UnsubscribeReport.ofHandlings handlings).succeeded +
        (UnsubscribeReport.ofHandlings handlings).failed := by
  induction handlings with
  | nil => rfl
  | cons handling rest ih =>
    simp only [UnsubscribeReport.ofHandlings, decide_not] at ih ⊢
    cases handling <;> simp <;> omega

/-- There is an account of the turns of any subscriptions. -/
theorem exists_accounts (client : Http.Client η) (config : AppConfig) (catalog : Catalog)
    (order : List Subscription) (s : η) :
    ∃ turns, Accounts client config.httpMaxAttempts catalog order s
      ((unsubscribeAll client config catalog order).run s) turns := by
  obtain ⟨turns, heach, hends, hfollow, htrace, hvalue⟩ :=
    exists_turns client config catalog order s
  have hreport : ((unsubscribeAll client config catalog order).run s).value =
      .ofHandlings (turns.map (·.left.value)) := by
    rw [unsubscribeAll, Act.run_map, hvalue]
  have hcount (handling : Handling) : (turns.map (·.left.value)).count handling =
      turns.countP (·.left.value = handling) := by
    rw [List.count_eq_countP, List.countP_map]
    rfl
  refine ⟨turns, ?_⟩
  constructor
  case each => exact heach
  case ends => exact hends
  case skipped_iff => exact fun turn hturn => (hends turn hturn).skipped_iff
  case calls => exact fun turn hturn _ _ => (hends turn hturn).calls
  case follow => simpa only [unsubscribeAll, Act.run_map] using hfollow
  case trace => simpa only [unsubscribeAll, Act.run_map] using htrace
  case counts =>
    rw [hreport]
    exact ⟨hcount .skipped, hcount .succeeded, hcount .failed⟩
  case total => rw [hreport, attempted_add_skipped, List.length_map, ← heach, List.length_map]
  case balance => rw [hreport, attempted_eq]
  case errors =>
    simp only [unsubscribeAll, Act.run_map]
    rw [htrace, ownLogs_flatMap hends]

end Teardown

namespace App

open Teardown

variable {σ κ η : Type}

/-- Ends subscriptions in a given order. -/
def unsubscribeIn (app : App) (runtime : AppRuntime σ κ η) (order : List Subscription) :
    Act Event (Live σ κ η) UnsubscribeReport :=
  Live.onHttp (Teardown.unsubscribeAll runtime.http app.config app.state.catalog order)

/-- The registered subscriptions are ended in the order of a snapshot. -/
theorem unsubscribeAll_run (app : App) (runtime : AppRuntime σ κ η) (live : Live σ κ η) :
    (app.unsubscribeAll runtime).run live =
      (app.unsubscribeIn runtime live.registry.snapshot).run live :=
  rfl

/-- An account of what an application leaves when it ends the registered subscriptions. -/
structure Unsubscribes (app : App) (runtime : AppRuntime σ κ η) (order : List Subscription)
    (live : Live σ κ η) (left : Acted Event (Live σ κ η) UnsubscribeReport) : Prop where
  /-- The subscriptions that have a turn are the registered ones. -/
  registered : ∀ subscription,
    subscription ∈ order ↔ live.registry.get? subscription.id = some subscription
  /-- None of them has two turns. -/
  distinct : (order.map Subscription.id).Nodup
  /-- None of them is left out. -/
  size : order.length = live.registry.size
  /-- Nothing but the HTTP client is touched: what was registered stays registered. -/
  state : left.state = { live with http := left.state.http }
  /-- The report, the calls and the log are those of the turns. -/
  accounts : ∃ turns, Accounts runtime.http app.config.httpMaxAttempts app.state.catalog order
    live.http ⟨left.value, left.state.http, left.trace⟩ turns

/-- Ending the registered subscriptions, in whatever order a snapshot lists them, gives each of them
what is due to it. -/
theorem unsubscribes_of_perm (app : App) (runtime : AppRuntime σ κ η) (live : Live σ κ η)
    {order : List Subscription} (hperm : order.Perm live.registry.snapshot) :
    app.Unsubscribes runtime order live ((app.unsubscribeIn runtime order).run live) where
  registered _ := hperm.mem_iff.trans Registry.mem_snapshot
  distinct := (hperm.map Subscription.id).nodup_iff.mpr live.registry.nodup_map_id_snapshot
  size := hperm.length_eq.trans live.registry.length_snapshot
  state := rfl
  accounts := exists_accounts runtime.http app.config app.state.catalog order live.http

/-- Ending every subscription accounts for all that are registered, whatever the catalog declares
about them and whatever the client answers, and in whatever order they are listed. The application
lists them by id. -/
theorem unsubscribeAll_accounts (app : App) (runtime : AppRuntime σ κ η) (live : Live σ κ η)
    {order : List Subscription} (hperm : order.Perm live.registry.snapshot) :
    app.Unsubscribes runtime order live ((app.unsubscribeIn runtime order).run live) ∧
      app.Unsubscribes runtime live.registry.snapshot live
        ((app.unsubscribeAll runtime).run live) := by
  refine ⟨app.unsubscribes_of_perm runtime live hperm, ?_⟩
  rw [unsubscribeAll_run]
  exact app.unsubscribes_of_perm runtime live (.refl _)

/-- A catalog in which subscriptions to the posts of a feed end with a call, and others without. -/
def feedCatalog : Catalog where
  services := .ofEntries [("feed", { config := { actions := .ofEntries [("watch", {
    events := .ofEntries [("post", { http := some {
      port := some 8080
      unsubscribe := some { path := "/stop" } } })] })] } })]

/-- An application with this catalog. -/
def feedApp : App where
  state := .create "app-1" "feeds" 1 "owner-1" .empty feedCatalog "storyflow.app"
  stories := ∅
  entrypoints := []
  config := {}

/-- The container of the feed. -/
def feedService : StreamingService where
  name := "feed"
  command := "watch"
  containerName := "feed-1"
  hostname := "feed-1.local"

/-- A registry with a subscription to posts and one to likes. -/
def feedRegistry : Registry :=
  (({} : Registry).add "s-1" feedService "post" .null ⟨0, 0, 0⟩).add "s-2" feedService "like" .null
    ⟨0, 0, 0⟩

/-- Collaborators of which only the client does anything: it answers from a list of replies. -/
def scriptedRuntime : AppRuntime Unit Unit Http.Replies where
  dispatcher := fun _ _ => pure .nothing
  containers := ScriptedContainers.runtime {}
  http := Http.Replies.client

/-- With the subscription to likes listed first, one is skipped and the other one is attempted. -/
theorem feed_is_accounted :
    let live : Live Unit Unit Http.Replies := ⟨feedRegistry, (), (), ∅⟩
    let left := (feedApp.unsubscribeIn scriptedRuntime feedRegistry.snapshot.reverse).run live
    left.value = { attempted := 1, succeeded := 1, skipped := 1 } ∧
      left.value.attempted + left.value.skipped = feedRegistry.size ∧
      left.state.registry = feedRegistry := by
  intro live left
  have hleft := (unsubscribeAll_accounts feedApp scriptedRuntime live (List.reverse_perm _)).1
  obtain ⟨turns, haccounts⟩ := hleft.accounts
  refine ⟨by decide +kernel, ?_, ?_⟩
  · rw [haccounts.total, hleft.size]
  · rw [hleft.state]

end App

end StoryEngine

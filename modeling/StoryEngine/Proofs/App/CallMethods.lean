import StoryEngine.Proofs.App.Unsubscribing
import StoryEngine.Proofs.Http.Token

/-!
# Methods of unsubscribe calls

The method that the catalog gives for an unsubscribe call is written in upper case before it is
checked to be a token. The call takes the method as it is written, except where the method is no
token but becomes one in upper case; such a call is made.
-/

namespace StoryEngine.Teardown

/-- Whether the call that ends a subscription takes its method as it is written. -/
structure TakesAsWritten (catalog : Catalog) (subscription : Subscription) (method : String) :
    Prop where
  /-- The request of the call can be built just if one with the method as it is written can. -/
  builds_iff (url : String) (body : Json) :
    (∃ request, unsubscribeRequest catalog subscription = some (.ok request)) ↔
      ∃ request, Http.Request.json method url body = .ok request
  /-- A request can be built just if its method is not empty and has characters of tokens only. -/
  accepts_iff (url : String) (body : Json) :
    (∃ request, Http.Request.json method url body = .ok request) ↔
      method ≠ "" ∧ ∀ c ∈ method.toList, Http.isTokenChar c = true
  /-- Both requests have the same method, which is in upper case. -/
  same {url : String} {body : Json} {called written : Http.Request}
    (hcalled : unsubscribeRequest catalog subscription = some (.ok called))
    (hwritten : Http.Request.json method url body = .ok written) :
    called.method = written.method ∧ written.method = Text.uppercase method
  /-- With a method that is no token no call is made, and the subscription counts as failed. -/
  refused (hmethod : Http.isToken method = false) {η : Type} (client : Http.Client η)
    (config : AppConfig) (s : η) :
    ∃ record, (unsubscribe client config catalog subscription).run s =
      ⟨.failed, s, [.logged record]⟩

/-- A request can be built just if its method is a token. -/
theorem exists_json_eq_ok_iff {method url : String} {body : Json} :
    (∃ request, Http.Request.json method url body = .ok request) ↔ Http.isToken method = true := by
  rw [Http.Request.json]
  cases Http.isToken method with
  | true => exact iff_of_true ⟨_, rfl⟩ rfl
  | false =>
    refine iff_of_false ?_ Bool.false_ne_true
    rintro ⟨request, ⟨⟩⟩

section

variable {catalog : Catalog} {subscription : Subscription} {http : EventHttp} {endpoint : Endpoint}
  {method : String}

/-- The request of a call can be built just if its method in upper case is a token. -/
theorem exists_unsubscribeRequest_iff
    (hdeclared : Declared catalog subscription http endpoint)
    (hmethod : endpoint.method = some method) :
    (∃ request, unsubscribeRequest catalog subscription = some (.ok request)) ↔
      Http.isToken (Text.uppercase method) = true := by
  rw [unsubscribeRequest_of_declared hdeclared, callMethod, hmethod, Option.getD_some]
  cases Http.isToken (Text.uppercase method) with
  | true => exact iff_of_true ⟨_, rfl⟩ rfl
  | false =>
    refine iff_of_false ?_ Bool.false_ne_true
    rintro ⟨request, ⟨⟩⟩

/-- The method of the request of a call is in upper case, and upper-cased once more. -/
theorem method_of_unsubscribeRequest {request : Http.Request}
    (hdeclared : Declared catalog subscription http endpoint)
    (hmethod : endpoint.method = some method)
    (hrequest : unsubscribeRequest catalog subscription = some (.ok request)) :
    request.method = Text.uppercase (Text.uppercase method) := by
  have hcallMethod : callMethod endpoint = Text.uppercase method := by
    rw [callMethod, hmethod, Option.getD_some]
  rw [unsubscribeRequest_of_declared hdeclared, hcallMethod, Option.some.injEq] at hrequest
  cases htoken : Http.isToken (Text.uppercase method) with
  | true =>
    rw [htoken, if_pos rfl, Except.ok.injEq] at hrequest
    rw [← hrequest, callRequest, hcallMethod]
  | false =>
    rw [htoken, if_neg Bool.false_ne_true] at hrequest
    exact nomatch hrequest

/-- A call takes its method as it is written, unless the method is no token but becomes one in upper
case. -/
theorem takesAsWritten_iff (hdeclared : Declared catalog subscription http endpoint)
    (hmethod : endpoint.method = some method) :
    TakesAsWritten catalog subscription method ↔ ¬ Http.Disguised method := by
  have hcalled := exists_unsubscribeRequest_iff hdeclared hmethod
  constructor
  · intro htakes hdisguised
    have hwritten := (htakes.builds_iff "" .null).mp
      (hcalled.mpr (Http.isToken_uppercase_iff_isToken_or_disguised.mpr (.inr hdisguised)))
    have htoken := exists_json_eq_ok_iff.mp hwritten
    rw [hdisguised.isToken_eq_false] at htoken
    cases htoken
  · intro hplain
    have htoken : Http.isToken (Text.uppercase method) = true ↔ Http.isToken method = true := by
      rw [Http.isToken_uppercase_iff_isToken_or_disguised, or_iff_left hplain]
    constructor
    case builds_iff =>
      intro url body
      rw [hcalled, htoken, exists_json_eq_ok_iff]
    case accepts_iff =>
      intro url body
      rw [exists_json_eq_ok_iff, Http.isToken_iff, ne_eq, String.toList_eq_nil_iff]
    case same =>
      intro url body called written hrequest hwritten
      have hmethods := exists_json_eq_ok_iff.mp ⟨written, hwritten⟩
      rw [Http.Request.json, if_pos hmethods, Except.ok.injEq] at hwritten
      rw [← hwritten, method_of_unsubscribeRequest hdeclared hmethod hrequest,
        Http.uppercase_uppercase hmethods]
      exact ⟨rfl, rfl⟩
    case refused =>
      intro hrefused η client config s
      have hunbuilt : Http.isToken (callMethod endpoint) = false := by
        rw [callMethod, hmethod, Option.getD_some, Bool.eq_false_iff, ne_eq, htoken, hrefused]
        exact Bool.false_ne_true
      simp only [unsubscribe, unsubscribeRequest_of_declared hdeclared, hunbuilt]
      exact ⟨_, rfl⟩

end

/-- How to unsubscribe from the posts of a feed, with a method. -/
def stopHttp (method : String) : EventHttp where
  unsubscribe := some { method := some method, path := "/stop" }

/-- A catalog of the feed. -/
def stopCatalog (method : String) : Catalog where
  services := .ofEntries [("feed", { config := { actions := .ofEntries [("watch", {
    events := .ofEntries [("post", { http := some (stopHttp method) })] })] } })]

/-- A subscription to the posts of the feed. -/
def postSubscription : Subscription where
  id := "s-1"
  service := { name := "feed", command := "watch", containerName := "feed-1", hostname := "feed" }
  event := "post"
  payload := .null
  subscribedAt := ⟨0, 0, 0⟩

theorem declared_stopCatalog (method : String) :
    Declared (stopCatalog method) postSubscription (stopHttp method)
      { method := some method, path := "/stop" } :=
  declares_iff.mpr ⟨rfl, rfl⟩

/-- A method in lower case with a hyphen is taken as it is written. -/
theorem search_method_is_taken :
    Declared (stopCatalog "m-search") postSubscription (stopHttp "m-search")
        { method := some "m-search", path := "/stop" } ∧
      TakesAsWritten (stopCatalog "m-search") postSubscription "m-search" := by
  refine ⟨declared_stopCatalog _, (takesAsWritten_iff (declared_stopCatalog _) rfl).mpr ?_⟩
  rintro ⟨-, c, hc, hlookalike⟩
  have hnone : ∀ c ∈ "m-search".toList, c ∉ Http.tokenLookalikes :=
    Http.forall_mem_of_all (by decide +kernel)
  exact hnone c hc hlookalike

/-- A sharp s is no token, yet a call with this method is made, with two letters instead. -/
theorem sharp_s_is_called :
    Declared (stopCatalog "ß") postSubscription (stopHttp "ß")
        { method := some "ß", path := "/stop" } ∧
      Http.isToken "ß" = false ∧
      unsubscribeRequest (stopCatalog "ß") postSubscription = some (.ok {
        method := "SS"
        url := "http://feed:80/stop"
        headers := [("Content-Type", "application/json; charset=utf-8")]
        body := some "null" }) := by
  have hall : ∀ c ∈ "ß".toList, c ∈ Http.tokenLookalikes :=
    Http.forall_mem_of_all (by decide +kernel)
  have hdisguised : Http.Disguised "ß" :=
    ⟨fun c hc => .inr (hall c hc), 'ß', List.mem_singleton_self _, List.mem_cons_self⟩
  exact ⟨declared_stopCatalog _, hdisguised.isToken_eq_false, by decide +kernel⟩

end StoryEngine.Teardown

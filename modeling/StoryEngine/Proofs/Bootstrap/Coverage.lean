import StoryEngine.Bootstrap.Containers
import StoryEngine.Proofs.Bootstrap.Launch
import StoryEngine.Proofs.Bootstrap.Plan

/-!
# Which services have a container

Sharing containers is meant to save starts and to change nothing else. It does so for every service
but the shadowed ones: if the first shared line for a service is internal, the plan counts the
service as taken care of although nothing was started for it.
-/

namespace StoryEngine.Bootstrap

variable {κ : Type}

/-- The first shared line for a service is internal, and all lines that need a container of the
service are shared, so each of them leaves the start to a line that makes none. -/
def Shadowed (isReusable : Story → Line → Bool) (service : String) (visits : List Visit) : Prop :=
  (∀ visit ∈ visits, visit.asksFor service = true → visit.isInternal = false →
    visit.isShared isReusable = true) ∧
  ∃ visit, firstShared? isReusable service visits = some visit ∧ visit.isInternal = true

/-- A service that a line needs is served unless it is shadowed. -/
theorem served_iff_not_shadowed {isReusable : Story → Line → Bool} {service : String}
    {visits : List Visit} {visit : Visit} (hvisit : visit ∈ visits)
    (hasks : visit.asksFor service = true) (hneeds : visit.isInternal = false) :
    Served isReusable [] service visits ↔ ¬ Shadowed isReusable service visits := by
  constructor
  · rintro (⟨own, hown, hownAsks, hnotShared, hownNeeds⟩ | ⟨-, first, hfirst, hfirstNeeds⟩)
      hshadowed
    · have hshared := hshadowed.1 own hown hownAsks hownNeeds
      simp [hnotShared] at hshared
    · obtain ⟨first', hfirst', hinternal⟩ := hshadowed.2
      rw [hfirst] at hfirst'
      cases hfirst'
      simp [hfirstNeeds] at hinternal
  · intro hclear
    by_cases hown : ∃ own ∈ visits, own.asksFor service = true ∧
        own.isShared isReusable = false ∧ own.isInternal = false
    · exact Or.inl hown
    · have hall : ∀ other ∈ visits, other.asksFor service = true → other.isInternal = false →
          other.isShared isReusable = true := by
        intro other hother hotherAsks hotherNeeds
        cases hshared : other.isShared isReusable with
        | true => rfl
        | false => exact absurd ⟨other, hother, hotherAsks, hshared, hotherNeeds⟩ hown
      have hshared := hall visit hvisit hasks hneeds
      obtain ⟨first, hfirst⟩ : ∃ first, firstShared? isReusable service visits = some first :=
        Option.isSome_iff_exists.mp
          (List.find?_isSome.mpr ⟨visit, hvisit, by simp [hasks, hshared]⟩)
      refine Or.inr ⟨List.not_mem_nil, first, hfirst, ?_⟩
      cases hinternal : first.isInternal with
      | false => rfl
      | true => exact absurd ⟨hall, first, hfirst, hinternal⟩ hclear

/-- Starting services succeeds when there is a plan and the launch of it succeeds, and then leaves
what the launch leaves. -/
theorem startServices_eq_ok {runtime : ContainerRuntime κ} {stories : List Story} {s : κ}
    (hok : ((startServices runtime stories).carryOut s).value = .ok ()) :
    ∃ launches, plan runtime.isReusable stories = .ok launches ∧
      ((launchAll runtime launches).run s).value = .ok () ∧
      ((startServices runtime stories).carryOut s).trace =
        ((launchAll runtime launches).run s).trace := by
  cases hplan : plan runtime.isReusable stories with
  | error stop =>
    rw [startServices_of_plan_eq_error hplan] at hok
    cases hok
  | ok launches =>
    rw [startServices_of_plan_eq_ok hplan] at hok ⊢
    exact ⟨launches, rfl, mapError_eq_ok.mp hok, rfl⟩

/-- A service has a container after a start of the services if some line that names the service was
started and its start succeeded. -/
def HasContainer (trace : Trace) (service : String) : Prop :=
  ∃ call, .startBegan call ∈ trace ∧ .startEnded call none ∈ trace ∧ call.service = service

/-- A launch names in its start the service of its chain. -/
theorem call_service_of_resolve {launch : Launch}
    (hchain : launch.story.app.catalog.resolve launch.story.name launch.line = .ok launch.chain) :
    launch.call.service = launch.chain.service := by
  obtain ⟨-, hservice, -⟩ := Catalog.resolve_eq_ok hchain
  simp [Launch.call, StartCall.ofLine, hservice]

/-- After services were started, those with a container are the ones that the plan serves. -/
theorem hasContainer_iff_served {runtime : ContainerRuntime κ} {stories : List Story} {s : κ}
    (hok : ((startServices runtime stories).carryOut s).value = .ok ()) {service : String} :
    HasContainer ((startServices runtime stories).carryOut s).trace service ↔
      Served runtime.isReusable [] service (stories.flatMap visits) := by
  obtain ⟨launches, hplan, hlaunch, htrace⟩ := startServices_eq_ok hok
  rw [← exists_launch_iff_served hplan, htrace, HasContainer]
  constructor
  · rintro ⟨call, hbegan, -, hservice⟩
    obtain ⟨launch, hmem, rfl⟩ := startBegan_mem_launchAll_iff.mp hbegan
    have hresolve := resolve_of_mem_planFrom hplan hmem
    exact ⟨launch, hmem, (call_service_of_resolve hresolve).symm.trans hservice⟩
  · rintro ⟨launch, hmem, hservice⟩
    have hresolve := resolve_of_mem_planFrom hplan hmem
    exact ⟨launch.call, startBegan_mem_launchAll_iff.mpr ⟨launch, hmem, rfl⟩,
      startEnded_mem_launchAll hlaunch hmem, (call_service_of_resolve hresolve).trans hservice⟩

/-- After services were started, every `execute` line on the walk of a story resolves, and if it
needs a container, then its service has one exactly when the service is not shadowed. -/
theorem hasContainer_iff_not_shadowed {runtime : ContainerRuntime κ} {stories : List Story} {s : κ}
    (hok : ((startServices runtime stories).carryOut s).value = .ok ()) {story : Story}
    {line : Line} (hstory : story ∈ stories) (hline : line ∈ story.definition.nextWalk.lines)
    (hmethod : line.method = .execute) :
    ∃ chain, story.app.catalog.resolve story.name line = .ok chain ∧
      (story.app.catalog.isInternal chain.service chain.command = false →
        (HasContainer ((startServices runtime stories).carryOut s).trace chain.service ↔
          ¬ Shadowed runtime.isReusable chain.service (stories.flatMap visits))) := by
  obtain ⟨launches, hplan, -, -⟩ := startServices_eq_ok hok
  have hvisit : .line story line ∈ stories.flatMap visits :=
    List.mem_flatMap.mpr ⟨story, hstory, line_mem_visits hline⟩
  obtain ⟨chain, hchain⟩ := resolve_of_mem_visits hplan hvisit hmethod
  refine ⟨chain, hchain, fun hneeds => ?_⟩
  have hasks : (Visit.line story line).asksFor chain.service = true := by
    simp [asksFor_of_resolve hchain]
  have hinternal : (Visit.line story line).isInternal = false := by
    simp [isInternal_of_resolve hchain, needsContainer, hneeds]
  rw [hasContainer_iff_served hok]
  exact served_iff_not_shadowed hvisit hasks hinternal

/-- A catalog with an internal command that shares the container of its service. -/
def sharingCatalog : Catalog where
  services := .ofEntries [
    ("db", { config := { actions := .ofEntries [("query", {}), ("status", {})] } }),
    ("mailer", { config := { actions := .ofEntries [("send", { runBlock := some .null })] } })]
  internal := [("db", "status")]

/-- A line that asks for the status of a service, which is internal. -/
def statusLine : Line where
  ln := "1"
  method := .execute
  next := some "2"
  service := some "db"
  command := some "status"

/-- A line that queries the service. -/
def queryLine : Line where
  ln := "2"
  method := .execute
  next := some "3"
  service := some "db"
  command := some "query"

/-- A line that sends a mail through another service. -/
def mailLine : Line where
  ln := "3"
  method := .execute
  service := some "mailer"
  command := some "send"

/-- A story that asks for the status of a service before it queries it. -/
def statusBeforeQuery : Story where
  name := "a.story"
  definition := {
    tree := .ofEntries [("1", statusLine), ("2", queryLine), ("3", mailLine)]
    entrypoint := some "1" }
  app := {
    appId := "app-1"
    appDns := "my-app"
    version := 1
    ownerUuid := "owner-1"
    environment := .empty
    context := { secrets := .empty, hostname := "my-app.storyflow.app", version := 1 }
    catalog := sharingCatalog }

/-- Starting the services of the story succeeds and leaves the service that it queries without a
container, although the query is not internal. -/
theorem no_container_for_query :
    let run := (startServices (ScriptedContainers.runtime {}) [statusBeforeQuery]).carryOut ()
    run.value = .ok () ∧ queryLine ∈ statusBeforeQuery.definition.nextWalk.lines ∧
      sharingCatalog.resolve "a.story" queryLine = .ok ⟨"db", "query"⟩ ∧
      sharingCatalog.isInternal "db" "query" = false ∧ ¬ HasContainer run.trace "db" := by
  refine ⟨rfl, by decide, rfl, rfl, ?_⟩
  rintro ⟨call, hbegan, -, hservice⟩
  have hmem : call ∈ Trace.starts ((startServices (ScriptedContainers.runtime {})
      [statusBeforeQuery]).carryOut ()).trace :=
    List.mem_filterMap.mpr ⟨_, hbegan, rfl⟩
  have hstarts : Trace.starts ((startServices (ScriptedContainers.runtime {})
      [statusBeforeQuery]).carryOut ()).trace = [.ofLine statusBeforeQuery mailLine] := rfl
  rw [hstarts, List.mem_singleton] at hmem
  subst hmem
  exact absurd hservice (by decide)

/-- The service through which the story sends a mail is not shadowed and has a container. -/
theorem container_for_mail :
    HasContainer
      ((startServices (ScriptedContainers.runtime {}) [statusBeforeQuery]).carryOut ()).trace
      "mailer" := by
  obtain ⟨chain, hchain, hiff⟩ := hasContainer_iff_not_shadowed
    (show ((startServices (ScriptedContainers.runtime {})
      [statusBeforeQuery]).carryOut ()).value = .ok () from rfl)
    (List.mem_singleton.mpr rfl)
    (show mailLine ∈ statusBeforeQuery.definition.nextWalk.lines by decide) rfl
  have hmail : chain = ⟨"mailer", "send"⟩ := by
    cases hchain
    rfl
  subst hmail
  refine (hiff rfl).mpr ?_
  rintro ⟨-, first, hfirst, -⟩
  cases hfirst

end StoryEngine.Bootstrap

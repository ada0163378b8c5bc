import StoryEngine.Bootstrap.Plan
import StoryEngine.Proofs.Success

/-!
# Who is served by the launch plan

The plan passes over a line whose service is shared and taken care of, and over internal commands.
The two meet in one place: a shared line takes care of its service even where it is internal and so
starts nothing. This file says for a service whether the plan has a start for it.
-/

namespace StoryEngine

/-- A line resolves only to the service and command that it names. -/
theorem Catalog.resolve_eq_ok {catalog : Catalog} {story : String} {line : Line} {chain : Chain}
    (hok : catalog.resolve story line = .ok chain) :
    line.method = .execute ∧ line.service = some chain.service ∧
      line.command = some chain.command := by
  have hchain := mapError_eq_ok.mp hok
  unfold Catalog.chainOf at hchain
  split at hchain
  · cases hchain
  rename_i hmethod
  refine ⟨Decidable.of_not_not hmethod, ?_⟩
  split at hchain
  · cases hchain
  · cases hchain
  rename_i hservice hcommand
  split at hchain
  · cases hchain
    exact ⟨hservice, hcommand⟩
  · split at hchain <;> cases hchain

namespace Bootstrap

namespace Visit

/-- The visit is to an `execute` line that names a service. -/
def asksFor (service : String) : Visit → Bool
  | line _ asked => asked.method = .execute && asked.service = some service
  | stopped _ => false

/-- The visit is to a line whose container can be shared. -/
def isShared (isReusable : Story → Line → Bool) : Visit → Bool
  | line story asked => isReusable story asked
  | stopped _ => false

/-- The visit is to a line whose command the engine carries out itself. -/
def isInternal : Visit → Bool
  | line story asked =>
    story.app.catalog.isInternal (asked.service.getD "") (asked.command.getD "")
  | stopped _ => false

end Visit

/-- The lines of the walk of a story are visited. -/
theorem line_mem_visits {story : Story} {line : Line}
    (hline : line ∈ story.definition.nextWalk.lines) : .line story line ∈ visits story :=
  List.mem_append_left _ (List.mem_map_of_mem hline)

/-- The first visit to a shared line that names a service. -/
def firstShared? (isReusable : Story → Line → Bool) (service : String) (visits : List Visit) :
    Option Visit :=
  visits.find? fun visit => visit.asksFor service && visit.isShared isReusable

/-- Some line that names a service gets a start of its own: one that needs a container and is not
shared, or the first shared one, unless the service is taken care of or that one is internal. -/
def Served (isReusable : Story → Line → Bool) (seen : List String) (service : String)
    (visits : List Visit) : Prop :=
  (∃ visit ∈ visits, visit.asksFor service = true ∧ visit.isShared isReusable = false ∧
    visit.isInternal = false) ∨
  (service ∉ seen ∧ ∃ visit, firstShared? isReusable service visits = some visit ∧
    visit.isInternal = false)

variable {isReusable : Story → Line → Bool} {seen : List String} {service : String}

/-- How a plan goes over one line: it leaves the line out, because it is no `execute` line or
because its service is taken care of, or it takes the line up. -/
inductive Planned (isReusable : Story → Line → Bool) (seen : List String) (story : Story)
    (line : Line) (rest : List Visit) (launches : List Launch) : Prop where
  /-- The line is no `execute` line. -/
  | skipped (hmethod : line.method ≠ .execute)
      (hrest : planFrom isReusable seen rest = .ok launches)
  /-- The line is shared, and its service is taken care of. -/
  | covered (chain : Chain) (hchain : story.app.catalog.resolve story.name line = .ok chain)
      (hshared : isReusable story line = true) (hseen : chain.service ∈ seen)
      (hrest : planFrom isReusable seen rest = .ok launches)
  /-- The line is the first shared one for its service. -/
  | first (chain : Chain) (later : List Launch)
      (hchain : story.app.catalog.resolve story.name line = .ok chain)
      (hshared : isReusable story line = true) (hseen : chain.service ∉ seen)
      (hrest : planFrom isReusable (chain.service :: seen) rest = .ok later)
      (hlaunches : launches = addLaunch story line chain later)
  /-- The line is not shared. -/
  | own (chain : Chain) (later : List Launch)
      (hchain : story.app.catalog.resolve story.name line = .ok chain)
      (hshared : isReusable story line = false)
      (hrest : planFrom isReusable seen rest = .ok later)
      (hlaunches : launches = addLaunch story line chain later)

/-- A plan that succeeds goes over each visit in one of these ways. -/
theorem planFrom_cons_eq_ok {visit : Visit} {rest : List Visit} {launches : List Launch}
    (hok : planFrom isReusable seen (visit :: rest) = .ok launches) :
    ∃ story line, visit = .line story line ∧
      Planned isReusable seen story line rest launches := by
  cases visit with
  | stopped stop => cases hok
  | line story line =>
    refine ⟨story, line, rfl, ?_⟩
    unfold planFrom at hok
    split at hok
    · exact .skipped (by assumption) hok
    · cases hchain : story.app.catalog.resolve story.name line with
      | error error =>
        rw [hchain] at hok
        cases hok
      | ok chain =>
        simp only [hchain] at hok
        split at hok
        · split at hok
          · exact .covered chain hchain (by assumption) (by assumption) hok
          · obtain ⟨later, hlater, hlaunches⟩ := map_eq_ok.mp hok
            exact .first chain later hchain (by assumption) (by assumption) hlater hlaunches.symm
        · obtain ⟨later, hlater, hlaunches⟩ := map_eq_ok.mp hok
          exact .own chain later hchain (by simp_all) hlater hlaunches.symm

/-- The plan goes over a line that resolves, and takes it up unless the line is shared and its
service is taken care of. -/
theorem planFrom_cons_of_resolve {story : Story} {line : Line} {chain : Chain}
    (hchain : story.app.catalog.resolve story.name line = .ok chain) (rest : List Visit) :
    planFrom isReusable seen (.line story line :: rest) =
      if isReusable story line = true ∧ chain.service ∈ seen then planFrom isReusable seen rest
      else (planFrom isReusable (if isReusable story line then chain.service :: seen else seen)
        rest).map (addLaunch story line chain) := by
  obtain ⟨hmethod, -, -⟩ := Catalog.resolve_eq_ok hchain
  cases hshared : isReusable story line with
  | false => simp [planFrom, hmethod, hchain, hshared]
  | true => simp [planFrom, hmethod, hchain, hshared]

/-- A launch that is added for a line is one for that line or one of the later launches. -/
theorem mem_addLaunch {story : Story} {line : Line} {chain : Chain} {later : List Launch}
    {launch : Launch} :
    launch ∈ addLaunch story line chain later ↔
      (needsContainer story chain = true ∧ launch = ⟨story, line, chain⟩) ∨ launch ∈ later := by
  unfold addLaunch
  split
  · rename_i hneeds
    simp [hneeds]
  · rename_i hneeds
    simp [hneeds]

/-- Every launch of a plan is for a line with the chain to which the line resolves. -/
theorem resolve_of_mem_planFrom {visits : List Visit} {launches : List Launch}
    (hok : planFrom isReusable seen visits = .ok launches) {launch : Launch}
    (hlaunch : launch ∈ launches) :
    launch.story.app.catalog.resolve launch.story.name launch.line = .ok launch.chain := by
  induction visits generalizing seen launches with
  | nil =>
    cases hok
    cases hlaunch
  | cons visit rest ih =>
    obtain ⟨story, line, -, hplanned⟩ := planFrom_cons_eq_ok hok
    cases hplanned with
    | skipped _ hrest => exact ih hrest hlaunch
    | covered _ _ _ _ hrest => exact ih hrest hlaunch
    | first chain later hchain _ _ hrest hlaunches
    | own chain later hchain _ hrest hlaunches =>
      subst hlaunches
      rcases mem_addLaunch.mp hlaunch with ⟨-, rfl⟩ | hlater
      · exact hchain
      · exact ih hrest hlater

/-- In a plan that succeeds every visit is to a line, and `execute` lines resolve. -/
theorem resolve_of_mem_visits {visits : List Visit} {launches : List Launch}
    (hok : planFrom isReusable seen visits = .ok launches) {story : Story} {line : Line}
    (hvisit : .line story line ∈ visits) (hmethod : line.method = .execute) :
    ∃ chain, story.app.catalog.resolve story.name line = .ok chain := by
  induction visits generalizing seen launches with
  | nil => cases hvisit
  | cons visit rest ih =>
    obtain ⟨_, _, rfl, hplanned⟩ := planFrom_cons_eq_ok hok
    rcases List.mem_cons.mp hvisit with heq | hlater
    · cases heq
      cases hplanned with
      | skipped hne => exact absurd hmethod hne
      | covered chain hchain
      | first chain _ hchain
      | own chain _ hchain => exact ⟨chain, hchain⟩
    · cases hplanned with
      | skipped _ hrest
      | covered _ _ _ _ hrest
      | first _ _ _ _ _ hrest
      | own _ _ _ _ hrest => exact ih hrest hlater

/-- Why there is no plan: a walk cannot go on, or an `execute` line does not resolve. -/
inductive PlanFault (visits : List Visit) : Stop → Prop where
  | stopped {stop : Stop} (hvisit : .stopped stop ∈ visits) : PlanFault visits stop
  | unresolved {story : Story} {line : Line} {error : EngineError}
      (hvisit : .line story line ∈ visits) (hmethod : line.method = .execute)
      (hchain : story.app.catalog.resolve story.name line = .error error) :
      PlanFault visits (.failed error)

/-- A fault stays one if there is something to meet before it. -/
theorem PlanFault.cons {visits : List Visit} {stop : Stop} (h : PlanFault visits stop)
    (visit : Visit) : PlanFault (visit :: visits) stop := by
  cases h with
  | stopped hvisit => exact .stopped (List.mem_cons_of_mem visit hvisit)
  | unresolved hvisit hmethod hchain =>
    exact .unresolved (List.mem_cons_of_mem visit hvisit) hmethod hchain

/-- A plan that fails has met a fault. -/
theorem planFrom_eq_error {visits : List Visit} {stop : Stop}
    (herror : planFrom isReusable seen visits = .error stop) : PlanFault visits stop := by
  induction visits generalizing seen with
  | nil => cases herror
  | cons visit rest ih =>
    cases visit with
    | stopped _ =>
      cases herror
      exact .stopped (List.mem_cons_self ..)
    | line story line =>
      by_cases hmethod : line.method = .execute
      case neg =>
        rw [planFrom, if_pos hmethod] at herror
        exact (ih herror).cons _
      cases hchain : story.app.catalog.resolve story.name line with
      | error error =>
        rw [planFrom, if_neg (not_not_intro hmethod), hchain] at herror
        cases herror
        exact .unresolved (List.mem_cons_self ..) hmethod hchain
      | ok chain =>
        rw [planFrom_cons_of_resolve hchain] at herror
        split at herror
        · exact (ih herror).cons _
        · cases hrest : planFrom isReusable
            (if isReusable story line then chain.service :: seen else seen) rest with
          | ok launches =>
            rw [hrest] at herror
            cases herror
          | error other =>
            rw [hrest] at herror
            cases herror
            exact (ih hrest).cons _

/-- A line that resolves asks for the service of its chain. -/
theorem asksFor_of_resolve {story : Story} {line : Line} {chain : Chain}
    (hchain : story.app.catalog.resolve story.name line = .ok chain) :
    (Visit.line story line).asksFor service = decide (chain.service = service) := by
  obtain ⟨hmethod, hservice, -⟩ := Catalog.resolve_eq_ok hchain
  simp [Visit.asksFor, hmethod, hservice]

/-- A line that resolves is internal when its chain needs no container. -/
theorem isInternal_of_resolve {story : Story} {line : Line} {chain : Chain}
    (hchain : story.app.catalog.resolve story.name line = .ok chain) :
    (Visit.line story line).isInternal = !needsContainer story chain := by
  obtain ⟨-, hservice, hcommand⟩ := Catalog.resolve_eq_ok hchain
  simp [Visit.isInternal, needsContainer, hservice, hcommand]

/-- A line that asks for another service leaves open whether a service is served. -/
theorem served_cons_of_not_asksFor {visit : Visit} {rest : List Visit}
    (hasks : visit.asksFor service = false) :
    Served isReusable seen service (visit :: rest) ↔ Served isReusable seen service rest := by
  simp [Served, firstShared?, hasks]

/-- A service is served by a shared line for it that comes first if that line is not internal. -/
theorem served_cons_of_isShared {visit : Visit} {rest : List Visit}
    (hasks : visit.asksFor service = true) (hshared : visit.isShared isReusable = true) :
    Served isReusable seen service (visit :: rest) ↔
      Served isReusable (service :: seen) service rest ∨
        (service ∉ seen ∧ visit.isInternal = false) := by
  simp [Served, firstShared?, hasks, hshared]

/-- A service is served by a line for it that is not shared if that line is not internal. -/
theorem served_cons_of_not_isShared {visit : Visit} {rest : List Visit}
    (hasks : visit.asksFor service = true) (hshared : visit.isShared isReusable = false) :
    Served isReusable seen service (visit :: rest) ↔
      visit.isInternal = false ∨ Served isReusable seen service rest := by
  simp [Served, firstShared?, hasks, hshared, or_assoc]

/-- Whether other services are taken care of makes no difference to a service. -/
theorem served_seen_cons_of_ne {other : String} (hne : other ≠ service) {visits : List Visit} :
    Served isReusable (other :: seen) service visits ↔ Served isReusable seen service visits := by
  simp [Served, hne.symm]

/-- A service that is taken care of once is so twice. -/
theorem served_seen_cons_of_mem (hseen : service ∈ seen) {visits : List Visit} :
    Served isReusable (service :: seen) service visits ↔ Served isReusable seen service visits := by
  simp [Served, hseen]

/-- The launches with a line added to them serve what the line serves and what they served. -/
theorem exists_launch_addLaunch {story : Story} {line : Line} {chain : Chain}
    {later : List Launch} :
    (∃ launch ∈ addLaunch story line chain later, launch.chain.service = service) ↔
      (needsContainer story chain = true ∧ chain.service = service) ∨
        ∃ launch ∈ later, launch.chain.service = service := by
  constructor
  · rintro ⟨launch, hlaunch, hservice⟩
    rcases mem_addLaunch.mp hlaunch with ⟨hneeds, rfl⟩ | hlater
    · exact Or.inl ⟨hneeds, hservice⟩
    · exact Or.inr ⟨launch, hlater, hservice⟩
  · rintro (⟨hneeds, hservice⟩ | ⟨launch, hlater, hservice⟩)
    · exact ⟨⟨story, line, chain⟩, mem_addLaunch.mpr (Or.inl ⟨hneeds, rfl⟩), hservice⟩
    · exact ⟨launch, mem_addLaunch.mpr (Or.inr hlater), hservice⟩

/-- A plan has a start for exactly the services that are served. -/
theorem exists_launch_iff_served {visits : List Visit} {launches : List Launch}
    (hok : planFrom isReusable seen visits = .ok launches) :
    (∃ launch ∈ launches, launch.chain.service = service) ↔
      Served isReusable seen service visits := by
  induction visits generalizing seen launches with
  | nil =>
    cases hok
    simp [Served, firstShared?]
  | cons visit rest ih =>
    obtain ⟨story, line, rfl, hplanned⟩ := planFrom_cons_eq_ok hok
    cases hplanned with
    | skipped hmethod hrest =>
      rw [ih hrest, served_cons_of_not_asksFor (by simp [Visit.asksFor, hmethod])]
    | covered chain hchain hshared hseen hrest =>
      have hasks : (Visit.line story line).asksFor service = decide (chain.service = service) :=
        asksFor_of_resolve hchain
      rw [ih hrest]
      by_cases hservice : chain.service = service
      · subst hservice
        have hvisit : (Visit.line story line).isShared isReusable = true := hshared
        rw [served_cons_of_isShared (by simp [hasks]) hvisit, served_seen_cons_of_mem hseen]
        simp [hseen]
      · rw [served_cons_of_not_asksFor (by simp [hasks, hservice])]
    | first chain later hchain hshared hseen hrest hlaunches =>
      have hasks : (Visit.line story line).asksFor service = decide (chain.service = service) :=
        asksFor_of_resolve hchain
      subst hlaunches
      rw [exists_launch_addLaunch, ih hrest]
      by_cases hservice : chain.service = service
      · subst hservice
        have hvisit : (Visit.line story line).isShared isReusable = true := hshared
        rw [served_cons_of_isShared (by simp [hasks]) hvisit, isInternal_of_resolve hchain]
        simp [hseen, or_comm]
      · rw [served_cons_of_not_asksFor (by simp [hasks, hservice]),
          served_seen_cons_of_ne hservice]
        simp [hservice]
    | own chain later hchain hshared hrest hlaunches =>
      have hasks : (Visit.line story line).asksFor service = decide (chain.service = service) :=
        asksFor_of_resolve hchain
      subst hlaunches
      rw [exists_launch_addLaunch, ih hrest]
      by_cases hservice : chain.service = service
      · subst hservice
        have hvisit : (Visit.line story line).isShared isReusable = false := hshared
        rw [served_cons_of_not_isShared (by simp [hasks]) hvisit, isInternal_of_resolve hchain]
        simp
      · rw [served_cons_of_not_asksFor (by simp [hasks, hservice])]
        simp [hservice]

end Bootstrap

end StoryEngine

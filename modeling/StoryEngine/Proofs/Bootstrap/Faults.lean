import StoryEngine.Proofs.Bootstrap.Launch
import StoryEngine.Proofs.Bootstrap.Plan
import StoryEngine.Proofs.Story.Course

/-!
# Faults of stories

The plan is made before anything is started, so a fault in any story keeps all containers from being
started, however many lines before it are in order. The fault that is reported is the first in the
order of the stories and of their walks. Stories without faults always have a plan, and an error is
then one with which a start ended.
-/

namespace StoryEngine

variable {κ : Type}

/-- Why an `execute` line does not resolve: it does not name a service and a command, or the command
is neither internal nor an action of the catalog. -/
inductive Catalog.Unresolvable (catalog : Catalog) (line : Line) : ResolutionFault → Prop where
  | noService (hmethod : line.method = .execute) (hservice : line.service = none) :
      Unresolvable catalog line .noService
  | noCommand {service : String} (hmethod : line.method = .execute)
      (hservice : line.service = some service) (hcommand : line.command = none) :
      Unresolvable catalog line (.noCommand service)
  | unknownCommand {service command : String} (hmethod : line.method = .execute)
      (hservice : line.service = some service) (hcommand : line.command = some command)
      (hinternal : (service, command) ∉ catalog.internal)
      (haction : catalog.action? service command = none)
      (hmentions : catalog.mentions service = true) :
      Unresolvable catalog line (.unknownCommand service command)
  | unknownService {service command : String} (hmethod : line.method = .execute)
      (hservice : line.service = some service) (hcommand : line.command = some command)
      (hinternal : (service, command) ∉ catalog.internal)
      (haction : catalog.action? service command = none)
      (hmentions : catalog.mentions service = false) :
      Unresolvable catalog line (.unknownService service)

namespace Catalog

variable {catalog : Catalog} {line : Line}

/-- A command is unknown if it is neither internal nor an action. -/
theorem knows_eq_false {service command : String}
    (hinternal : (service, command) ∉ catalog.internal)
    (haction : catalog.action? service command = none) : catalog.knows service command = false := by
  simp [knows, isInternal, hinternal, haction]

/-- A line that does not resolve has no chain. -/
theorem Unresolvable.chainOf_eq {fault : ResolutionFault} (h : catalog.Unresolvable line fault) :
    catalog.chainOf line = .error fault := by
  cases h with
  | noService hmethod hservice => simp [chainOf, hmethod, hservice]
  | noCommand hmethod hservice hcommand => simp [chainOf, hmethod, hservice, hcommand]
  | unknownCommand hmethod hservice hcommand hinternal haction hmentions
  | unknownService hmethod hservice hcommand hinternal haction hmentions =>
    have hknows := knows_eq_false hinternal haction
    simp [chainOf, hmethod, hservice, hcommand, hknows, hmentions]

/-- The error for a line that does not resolve gives the reason in words. -/
theorem Unresolvable.resolve_eq {fault : ResolutionFault} (h : catalog.Unresolvable line fault)
    (story : String) :
    catalog.resolve story line = .error (.resolution (fault.message story line.ln)) := by
  rw [resolve, h.chainOf_eq]
  rfl

/-- The lines that do not resolve are the `execute` lines that name no service, or no command, or a
command that is neither internal nor an action. -/
theorem exists_unresolvable_iff :
    (∃ fault, catalog.Unresolvable line fault) ↔
      line.method = .execute ∧ (line.service = none ∨ line.command = none ∨
        ∃ service command, line.service = some service ∧ line.command = some command ∧
          (service, command) ∉ catalog.internal ∧ catalog.action? service command = none) := by
  constructor
  · rintro ⟨fault, h⟩
    cases h with
    | noService hmethod hservice => exact ⟨hmethod, Or.inl hservice⟩
    | noCommand hmethod _ hcommand => exact ⟨hmethod, Or.inr (Or.inl hcommand)⟩
    | unknownCommand hmethod hservice hcommand hinternal haction
    | unknownService hmethod hservice hcommand hinternal haction =>
      exact ⟨hmethod, Or.inr (Or.inr ⟨_, _, hservice, hcommand, hinternal, haction⟩)⟩
  · rintro ⟨hmethod, hservice | hcommand |
      ⟨service, command, hservice, hcommand, hinternal, haction⟩⟩
    · exact ⟨_, .noService hmethod hservice⟩
    · cases hservice : line.service with
      | none => exact ⟨_, .noService hmethod hservice⟩
      | some service => exact ⟨_, .noCommand hmethod hservice hcommand⟩
    · cases hmentions : catalog.mentions service with
      | true => exact ⟨_, .unknownCommand hmethod hservice hcommand hinternal haction hmentions⟩
      | false => exact ⟨_, .unknownService hmethod hservice hcommand hinternal haction hmentions⟩

/-- An `execute` line that has no fault resolves. -/
theorem exists_resolve_eq_ok (story : String) (hmethod : line.method = .execute)
    (hresolves : ∀ fault, ¬ catalog.Unresolvable line fault) :
    ∃ chain, catalog.resolve story line = .ok chain := by
  have hclear := fun hfault => not_exists.mpr hresolves (exists_unresolvable_iff.mpr hfault)
  cases hservice : line.service with
  | none => exact absurd ⟨hmethod, Or.inl hservice⟩ hclear
  | some service =>
    cases hcommand : line.command with
    | none => exact absurd ⟨hmethod, Or.inr (Or.inl hcommand)⟩ hclear
    | some command =>
      have hknows : catalog.knows service command = true := by
        refine Decidable.byContradiction fun hunknown => ?_
        have hneither : (service, command) ∉ catalog.internal ∧
            catalog.action? service command = none := by
          simpa [knows, isInternal] using hunknown
        exact hclear ⟨hmethod, Or.inr (Or.inr ⟨_, _, hservice, hcommand, hneither⟩)⟩
      refine ⟨⟨service, command⟩, mapError_eq_ok.mpr ?_⟩
      simp [chainOf, hmethod, hservice, hcommand, hknows]

/-- The catalog after some commands were registered as internal, one after another. -/
def registerAll (catalog : Catalog) (calls : List (String × String)) : Catalog :=
  calls.foldl (fun catalog call => catalog.registerInternal call.1 call.2) catalog

/-- Registering commands leaves the services as they are. -/
theorem registerAll_services (catalog : Catalog) (calls : List (String × String)) :
    (catalog.registerAll calls).services = catalog.services := by
  induction calls generalizing catalog with
  | nil => rfl
  | cons call rest ih => exact ih _

/-- Registering commands makes exactly these commands internal, whatever their order. -/
theorem mem_registerAll_internal (catalog : Catalog) (calls : List (String × String))
    (call : String × String) :
    call ∈ (catalog.registerAll calls).internal ↔ call ∈ calls ∨ call ∈ catalog.internal := by
  induction calls generalizing catalog with
  | nil => simp [registerAll]
  | cons first rest ih =>
    rw [registerAll, List.foldl_cons, ← registerAll, ih]
    simp only [registerInternal, List.mem_cons]
    constructor
    · rintro (hrest | hfirst | hold)
      · exact Or.inl (Or.inr hrest)
      · exact Or.inl (Or.inl hfirst)
      · exact Or.inr hold
    · rintro ((hfirst | hrest) | hold)
      · exact Or.inr (Or.inl hfirst)
      · exact Or.inl hrest
      · exact Or.inr (Or.inr hold)

/-- After some commands were registered, the lines that do not resolve are the `execute` lines that
name no service, or no command, or a command that is neither registered nor an action. -/
theorem exists_unresolvable_registerAll_iff (services : Table ServiceDefinition)
    (calls : List (String × String)) (line : Line) :
    (∃ fault, (registerAll { services } calls).Unresolvable line fault) ↔
      line.method = .execute ∧ (line.service = none ∨ line.command = none ∨
        ∃ service command, line.service = some service ∧ line.command = some command ∧
          (service, command) ∉ calls ∧ action? { services } service command = none) := by
  simp [exists_unresolvable_iff, mem_registerAll_internal, action?, service?, registerAll_services]

end Catalog

namespace Story

open StoryDefinition

variable {story : Story}

/-- The ids to which the walk along `next` comes, whether or not a line has them. -/
inductive Reaches (story : Story) : String → Prop where
  | first {id : String} (hfirst : story.firstLine = some id) : Reaches story id
  | next {id later : String} {line : Line} (hreaches : Reaches story id)
      (hline : story.definition.line? id = some line) (hnext : line.next = some later) :
      Reaches story later

/-- No line has the id, or the line that has it does not resolve. -/
def Faulty (story : Story) (id : String) : Prop :=
  story.definition.line? id = none ∨
    ∃ line fault, story.definition.line? id = some line ∧ story.app.catalog.Unresolvable line fault

/-- From a pointer on, the walk along `next` comes to its end, and all its lines are in order. -/
inductive ClearFrom (story : Story) : Option String → Prop where
  | finished : ClearFrom story none
  | line {id : String} {line : Line} (hline : story.definition.line? id = some line)
      (hresolves : ∀ fault, ¬ story.app.catalog.Unresolvable line fault)
      (hlater : ClearFrom story line.next) : ClearFrom story (some id)

/-- The error for the first fault on the walk along `next` from a pointer on. -/
inductive FaultFrom (story : Story) : Option String → EngineError → Prop where
  | missing {id : String} (hline : story.definition.line? id = none) :
      FaultFrom story (some id) (.lineNotFound s!"{id} in story {story.name}")
  | unresolvable {id : String} {line : Line} {fault : ResolutionFault}
      (hline : story.definition.line? id = some line)
      (hfault : story.app.catalog.Unresolvable line fault) :
      FaultFrom story (some id) (.resolution (fault.message story.name line.ln))
  | later {id : String} {line : Line} {error : EngineError}
      (hline : story.definition.line? id = some line)
      (hresolves : ∀ fault, ¬ story.app.catalog.Unresolvable line fault)
      (hlater : FaultFrom story line.next error) : FaultFrom story (some id) error

/-- A walk in order reaches no fault. -/
theorem ClearFrom.not_faulty (hclear : story.ClearFrom story.firstLine) {id : String}
    (hreaches : story.Reaches id) : ¬ story.Faulty id := by
  have hfrom : story.ClearFrom (some id) := by
    induction hreaches with
    | first hfirst => rwa [hfirst] at hclear
    | next _ hline hnext ih =>
      cases ih with
      | line hfound _ hlater =>
        rw [hline] at hfound
        cases hfound
        rwa [hnext] at hlater
  cases hfrom with
  | line hline hresolves _ =>
    rintro (hmissing | ⟨other, fault, hother, hfault⟩)
    · rw [hline] at hmissing
      cases hmissing
    · rw [hline] at hother
      cases hother
      exact hresolves fault hfault

/-- A walk with a fault reaches one. -/
theorem FaultFrom.exists_faulty {pointer : Option String} {error : EngineError}
    (hfault : story.FaultFrom pointer error)
    (hreaches : ∀ id, pointer = some id → story.Reaches id) :
    ∃ id, story.Reaches id ∧ story.Faulty id := by
  induction hfault with
  | missing hline => exact ⟨_, hreaches _ rfl, Or.inl hline⟩
  | unresolvable hline hfault => exact ⟨_, hreaches _ rfl, Or.inr ⟨_, _, hline, hfault⟩⟩
  | later hline _ _ ih => exact ih fun id hnext => .next (hreaches _ rfl) hline hnext

/-- From any pointer on, a walk that does not come back to a line is in order or has a first
fault. -/
theorem clearFrom_or_faultFrom (story : Story) {unseen : Nat} {walked : List String}
    {pointer : Option String}
    (hends : ∀ id, (walkFrom story.definition.tree unseen walked pointer).stop ≠ .repeated id) :
    story.ClearFrom pointer ∨ ∃ error, story.FaultFrom pointer error := by
  fun_induction walkFrom story.definition.tree unseen walked pointer with
  | case1 => exact Or.inl .finished
  | case2 _ id =>
    simp only at hends
    split at hends
    · exact absurd rfl (hends id)
    · rename_i hmissing
      exact Or.inr ⟨_, .missing (Std.ExtTreeMap.getElem?_eq_none hmissing)⟩
  | case3 _ _ _ hmissing => exact Or.inr ⟨_, .missing hmissing⟩
  | case4 _ _ id => exact absurd rfl (hends id)
  | case5 unseen walked id line hline hfresh ih =>
    by_cases hfault : ∃ fault, story.app.catalog.Unresolvable line fault
    · obtain ⟨fault, hfault⟩ := hfault
      exact Or.inr ⟨_, .unresolvable hline hfault⟩
    · have hresolves := not_exists.mp hfault
      rcases ih hends with hclear | ⟨error, hlater⟩
      · exact Or.inl (.line hline hresolves hclear)
      · exact Or.inr ⟨error, .later hline hresolves hlater⟩

end Story

namespace Bootstrap

open StoryDefinition

variable {isReusable : Story → Line → Bool} {seen : List String}

/-- What the plan meets on a walk of a story. -/
def visitsOf (story : Story) (walk : NextWalk) : List Visit :=
  walk.lines.map (.line story) ++ ((walkStop? story walk.stop).map .stopped).toList

/-- The plan goes over a line in order to what comes after it. -/
theorem planFrom_cons_of_resolves (isReusable : Story → Line → Bool) (seen : List String)
    {story : Story} {line : Line} (hresolves : ∀ fault, ¬ story.app.catalog.Unresolvable line fault)
    (rest : List Visit) :
    ∃ (later : List String) (add : List Launch → List Launch),
      planFrom isReusable seen (.line story line :: rest) =
        (planFrom isReusable later rest).map add := by
  have hid (result : Except Stop (List Launch)) : result = result.map id := by
    cases result <;> rfl
  by_cases hmethod : line.method = .execute
  · obtain ⟨chain, hchain⟩ := Catalog.exists_resolve_eq_ok story.name hmethod hresolves
    rw [planFrom_cons_of_resolve hchain]
    split
    · exact ⟨seen, id, hid _⟩
    · exact ⟨_, _, rfl⟩
  · refine ⟨seen, id, ?_⟩
    rw [← hid]
    simp [planFrom, hmethod]

/-- The plan ends at a line that does not resolve. -/
theorem planFrom_cons_of_unresolvable {story : Story} {line : Line} {fault : ResolutionFault}
    (hfault : story.app.catalog.Unresolvable line fault) (rest : List Visit) :
    planFrom isReusable seen (.line story line :: rest) =
      .error (.failed (.resolution (fault.message story.name line.ln))) := by
  have hmethod : line.method = .execute := by
    cases hfault <;> assumption
  simp [planFrom, hmethod, hfault.resolve_eq story.name]

/-- The plan ends at the first fault of a walk. -/
theorem planFrom_of_faultFrom {story : Story} {pointer : Option String} {error : EngineError}
    (hfault : story.FaultFrom pointer error) {unseen : Nat} {walked : List String}
    (hends : ∀ id, (walkFrom story.definition.tree unseen walked pointer).stop ≠ .repeated id)
    (rest : List Visit) :
    planFrom isReusable seen
        (visitsOf story (walkFrom story.definition.tree unseen walked pointer) ++ rest) =
      .error (.failed error) := by
  fun_induction walkFrom story.definition.tree unseen walked pointer generalizing seen with
  | case1 => cases hfault
  | case2 _ id =>
    simp only at hends
    split at hends
    · exact absurd rfl (hends id)
    · rename_i hmissing
      have hnone := Std.ExtTreeMap.getElem?_eq_none hmissing
      cases hfault with
      | missing => simp [visitsOf, walkStop?, NextWalk.lines, planFrom, hmissing]
      | unresolvable hline
      | later hline => cases hnone.symm.trans hline
  | case3 _ _ _ hmissing =>
    cases hfault with
    | missing => rfl
    | unresolvable hline
    | later hline => cases hmissing.symm.trans hline
  | case4 _ _ id => exact absurd rfl (hends id)
  | case5 unseen walked id line hline hfresh ih =>
    cases hfault with
    | missing hnone => cases hline.symm.trans hnone
    | unresolvable hfound hfault =>
      cases hline.symm.trans hfound
      exact planFrom_cons_of_unresolvable hfault _
    | later hfound hresolves hlater =>
      cases hline.symm.trans hfound
      obtain ⟨taken, add, hplan⟩ := planFrom_cons_of_resolves isReusable seen hresolves
        (visitsOf story (walkFrom story.definition.tree unseen (id :: walked) line.next) ++ rest)
      refine hplan.trans ?_
      rw [ih hlater hends]
      rfl

/-- The plan goes over a walk in order to what comes after it. -/
theorem planFrom_of_clearFrom (isReusable : Story → Line → Bool) (seen : List String)
    {story : Story} {pointer : Option String} (hclear : story.ClearFrom pointer) {unseen : Nat}
    {walked : List String}
    (hends : ∀ id, (walkFrom story.definition.tree unseen walked pointer).stop ≠ .repeated id)
    (rest : List Visit) :
    ∃ (later : List String) (add : List Launch → List Launch),
      planFrom isReusable seen
          (visitsOf story (walkFrom story.definition.tree unseen walked pointer) ++ rest) =
        (planFrom isReusable later rest).map add := by
  fun_induction walkFrom story.definition.tree unseen walked pointer generalizing seen with
  | case1 =>
    refine ⟨seen, id, ?_⟩
    change planFrom isReusable seen rest = _
    cases planFrom isReusable seen rest <;> rfl
  | case2 _ id =>
    cases hclear with
    | line hline =>
      simp only at hends
      split at hends
      · exact absurd rfl (hends id)
      · rename_i hmissing
        cases (Std.ExtTreeMap.getElem?_eq_none hmissing).symm.trans hline
  | case3 _ _ _ hmissing =>
    cases hclear with
    | line hline => cases hmissing.symm.trans hline
  | case4 _ _ id => exact absurd rfl (hends id)
  | case5 unseen walked id line hline hfresh ih =>
    cases hclear with
    | line hfound hresolves hlater =>
      cases hline.symm.trans hfound
      obtain ⟨taken, add, hplan⟩ := planFrom_cons_of_resolves isReusable seen hresolves
        (visitsOf story (walkFrom story.definition.tree unseen (id :: walked) line.next) ++ rest)
      obtain ⟨later, addRest, hrest⟩ := ih taken hlater hends
      refine ⟨later, add ∘ addRest, hplan.trans ?_⟩
      rw [hrest]
      cases planFrom isReusable later rest <;> rfl

/-- The error for the first fault of some stories, in their order. -/
inductive FirstFault : List Story → EngineError → Prop where
  | here {story : Story} {rest : List Story} {error : EngineError}
      (hfault : story.FaultFrom story.firstLine error) : FirstFault (story :: rest) error
  | later {story : Story} {rest : List Story} {error : EngineError}
      (hclear : story.ClearFrom story.firstLine) (hrest : FirstFault rest error) :
      FirstFault (story :: rest) error

/-- No walk of the stories comes back to a line. -/
def WalksEnd (stories : List Story) : Prop :=
  ∀ story ∈ stories, ∀ id, story.definition.nextWalk.stop ≠ .repeated id

/-- The walk of some story reaches a fault. -/
def HasFault (stories : List Story) : Prop :=
  ∃ story ∈ stories, ∃ id, story.Reaches id ∧ story.Faulty id

/-- Stories with a fault have a first one, and only those. -/
theorem exists_firstFault_iff {stories : List Story} (hends : WalksEnd stories) :
    (∃ error, FirstFault stories error) ↔ HasFault stories := by
  constructor
  · rintro ⟨error, hfirst⟩
    induction hfirst with
    | @here story rest error hfault =>
      obtain ⟨id, hreaches, hfaulty⟩ := hfault.exists_faulty fun id hfirst => .first hfirst
      exact ⟨story, List.mem_cons_self .., id, hreaches, hfaulty⟩
    | later _ _ ih =>
      obtain ⟨story, hstory, hfault⟩ := ih fun story hstory =>
        hends story (List.mem_cons_of_mem _ hstory)
      exact ⟨story, List.mem_cons_of_mem _ hstory, hfault⟩
  · induction stories with
    | nil =>
      rintro ⟨story, hstory, -⟩
      cases hstory
    | cons first rest ih =>
      rintro ⟨story, hstory, id, hreaches, hfaulty⟩
      rcases first.clearFrom_or_faultFrom (hends first (List.mem_cons_self ..)) with
        hclear | ⟨error, hfault⟩
      · -- the fault is in a later story, since the walk of the first is in order
        rcases List.mem_cons.mp hstory with rfl | hrest
        · exact absurd hfaulty (hclear.not_faulty hreaches)
        · obtain ⟨error, hlater⟩ := ih (fun other hother =>
            hends other (List.mem_cons_of_mem _ hother)) ⟨story, hrest, id, hreaches, hfaulty⟩
          exact ⟨error, .later hclear hlater⟩
      · exact ⟨error, .here hfault⟩

/-- The plan for stories with a fault ends at the first one. -/
theorem planFrom_of_firstFault {stories : List Story} {error : EngineError}
    (hfirst : FirstFault stories error) (hends : WalksEnd stories) :
    planFrom isReusable seen (stories.flatMap visits) = .error (.failed error) := by
  induction hfirst generalizing seen with
  | here hfault =>
    rw [List.flatMap_cons]
    exact planFrom_of_faultFrom hfault (hends _ (List.mem_cons_self ..)) _
  | @later story rest error hclear _ ih =>
    rw [List.flatMap_cons]
    obtain ⟨taken, add, hplan⟩ := planFrom_of_clearFrom isReusable seen hclear
      (hends story (List.mem_cons_self ..)) (rest.flatMap visits)
    refine hplan.trans ?_
    rw [ih fun other hother => hends other (List.mem_cons_of_mem _ hother)]
    rfl

/-- Stories without a fault have a plan. -/
theorem exists_planFrom_of_not_hasFault (isReusable : Story → Line → Bool) (seen : List String)
    {stories : List Story} (hends : WalksEnd stories) (hnone : ¬ HasFault stories) :
    ∃ launches, planFrom isReusable seen (stories.flatMap visits) = .ok launches := by
  induction stories generalizing seen with
  | nil => exact ⟨[], rfl⟩
  | cons story rest ih =>
    rcases story.clearFrom_or_faultFrom (hends story (List.mem_cons_self ..)) with
      hclear | ⟨error, hfault⟩
    · obtain ⟨taken, add, hplan⟩ := planFrom_of_clearFrom isReusable seen hclear
        (hends story (List.mem_cons_self ..)) (rest.flatMap visits)
      have hrest : ¬ HasFault rest := fun ⟨other, hother, hfault⟩ =>
        hnone ⟨other, List.mem_cons_of_mem _ hother, hfault⟩
      obtain ⟨launches, hlaunches⟩ := ih taken
        (fun other hother => hends other (List.mem_cons_of_mem _ hother)) hrest
      refine ⟨add launches, ?_⟩
      rw [List.flatMap_cons]
      refine hplan.trans ?_
      rw [hlaunches]
      rfl
    · exact absurd ((exists_firstFault_iff hends).mp ⟨error, .here hfault⟩) hnone

/-- A launch that fails does so with an error with which one of its starts ended. -/
theorem startEnded_mem_of_launchAll_eq_error {runtime : ContainerRuntime κ}
    {launches : List Launch} {s : κ} {error : EngineError}
    (herror : ((launchAll runtime launches).run s).value = .error error) :
    ∃ call, .startEnded call (some error) ∈ ((launchAll runtime launches).run s).trace := by
  rw [launchAll_value] at herror
  cases hfirst : firstFailure? launches (launchResults runtime launches s) with
  | none =>
    rw [hfirst] at herror
    cases herror
  | some failed =>
    rw [hfirst] at herror
    cases herror
    obtain ⟨place, -, hfailure, -⟩ := firstFailure?_eq_some_iff.mp hfirst
    refine ⟨(launches.get place).call, ?_⟩
    rw [launchAll_trace]
    refine List.mem_append_left _ (List.mem_map.mpr ⟨_, runtime.schedule.finish_mem place, ?_⟩)
    rw [stepEvent, hfailure]

/-- If a walk reaches a fault, then nothing is started and the first fault is reported. Otherwise
every error is one with which a start ended. -/
theorem startServices_reports_firstFault (runtime : ContainerRuntime κ) {stories : List Story}
    (hends : WalksEnd stories) (s : κ) :
    (HasFault stories ↔ ∃ error, FirstFault stories error) ∧
    (∀ error, FirstFault stories error →
      (startServices runtime stories).carryOut s = ⟨.error (.failed error), s, []⟩) ∧
    (¬ HasFault stories →
      ((startServices runtime stories).carryOut s).value = .ok () ∨
        ∃ call error,
          ((startServices runtime stories).carryOut s).value = .error (.failed error) ∧
          .startEnded call (some error) ∈ ((startServices runtime stories).carryOut s).trace) ∧
    ∀ services calls line,
      (∃ fault, (Catalog.registerAll { services } calls).Unresolvable line fault) ↔
        line.method = .execute ∧ (line.service = none ∨ line.command = none ∨
          ∃ service command, line.service = some service ∧ line.command = some command ∧
            (service, command) ∉ calls ∧ Catalog.action? { services } service command = none) := by
  refine ⟨(exists_firstFault_iff hends).symm, fun error hfirst => ?_, fun hnone => ?_,
    Catalog.exists_unresolvable_registerAll_iff⟩
  · exact startServices_of_plan_eq_error (planFrom_of_firstFault hfirst hends) s
  · obtain ⟨launches, hplan⟩ := exists_planFrom_of_not_hasFault runtime.isReusable [] hends hnone
    rw [startServices_of_plan_eq_ok hplan]
    cases hvalue : ((launchAll runtime launches).run s).value with
    | ok _ => exact Or.inl rfl
    | error error =>
      obtain ⟨call, hended⟩ := startEnded_mem_of_launchAll_eq_error hvalue
      exact Or.inr ⟨call, error, rfl, hended⟩

/-- A catalog with a service that has one command. -/
def mailCatalog : Catalog where
  services := .ofEntries [("mailer", { config := { actions := .ofEntries [("send", {})] } })]

/-- A line that asks for a command of the service. -/
def mailerLine (command : String) (next : Option String) : Line where
  ln := "1"
  method := .execute
  next := next
  service := some "mailer"
  command := some command

/-- A story in order. -/
def sendStory : Story :=
  .withCatalog (.ofLines [mailerLine "send" none]) mailCatalog

/-- A story that asks for an unknown command before its walk comes to an id that no line has. -/
def recallStory : Story :=
  .withCatalog (.ofLines [mailerLine "recall" (some "2")]) mailCatalog

/-- Nothing is started for the story in order and the other one, whatever provides the containers,
and the unknown command is reported. -/
theorem recallStory_keeps_sendStory_from_starting :
    WalksEnd [sendStory, recallStory] ∧ ∀ (runtime : ContainerRuntime Unit) (s : Unit),
      (startServices runtime [sendStory, recallStory]).carryOut s =
        ⟨.error (.failed (.resolution
          "line 1 of a.story: command mailer.recall is not defined")), s, []⟩ := by
  have hends : WalksEnd [sendStory, recallStory] := by
    intro story hstory id
    simp only [List.mem_cons, List.not_mem_nil, or_false] at hstory
    rcases hstory with rfl | rfl
    · exact fun hstop => by cases hstop
    · exact fun hstop => by cases hstop
  have hresolves (fault : ResolutionFault) :
      ¬ mailCatalog.Unresolvable (mailerLine "send" none) fault := by
    intro h
    obtain ⟨-, hnone | hnone | ⟨_, _, hservice, hcommand, -, hnone⟩⟩ :=
      Catalog.exists_unresolvable_iff.mp ⟨fault, h⟩
    · cases hnone
    · cases hnone
    · cases hservice
      cases hcommand
      cases hnone
  have hclear : sendStory.ClearFrom (some "1") := .line rfl hresolves .finished
  have hfault : mailCatalog.Unresolvable (mailerLine "recall" (some "2"))
      (.unknownCommand "mailer" "recall") :=
    .unknownCommand rfl rfl rfl List.not_mem_nil rfl rfl
  have hhere : recallStory.FaultFrom (some "1")
      (.resolution ((ResolutionFault.unknownCommand "mailer" "recall").message "a.story" "1")) :=
    Story.FaultFrom.unresolvable (show recallStory.definition.line? "1" = _ from rfl) hfault
  refine ⟨hends, fun runtime s => ?_⟩
  exact (startServices_reports_firstFault runtime hends s).2.1 _ (.later hclear (.here hhere))

end Bootstrap

end StoryEngine

import StoryEngine.Proofs.App.Soundness
import StoryEngine.Proofs.Interpreter.Safety
import StoryEngine.Proofs.Story.Soundness

/-!
# Which definitions are accepted

An application is made from a definition if every story that it runs at the start is there and the
line graph of every story is sound; otherwise it is refused with a validation error. Stories and
lines may be listed in any order: the order has a say in which fault is met first, and none in
whether there is one.
-/

namespace StoryEngine

/-- Whether a check succeeds exactly if something is sound, and fails as a validation otherwise. -/
structure Judges {α : Type} (sound : Prop) (check : Except EngineError α) : Prop where
  accepts : (∃ value, check = .ok value) ↔ sound
  refuses : ∀ error, check = .error error → ∃ detail, error = .validation detail

/-- A check without a value judges what its success is equivalent to. -/
theorem Judges.of_unit {sound : Prop} {check : Except EngineError Unit}
    (haccepts : check = .ok () ↔ sound)
    (hrefuses : ∀ error, check = .error error → ∃ detail, error = .validation detail) :
    Judges sound check where
  accepts := by
    rw [← haccepts]
    constructor
    · rintro ⟨_, hok⟩
      exact hok
    · intro hok
      exact ⟨(), hok⟩
  refuses := hrefuses

/-- Checks the line graph of a story with its lines listed in a given order. -/
def StoryDefinition.validateListed (definition : StoryDefinition) (story : String)
    (order : List (String × Line)) : Except EngineError Unit :=
  (definition.validateIn order).mapError fun fault => .validation (fault.message story)

/-- The check of a line graph judges whether it is sound, in whatever order its lines are listed. -/
theorem StoryDefinition.judges_validateListed {definition : StoryDefinition}
    {order : List (String × Line)} (hperm : order.Perm definition.tree.toList) (story : String) :
    Judges definition.Sound (definition.validateListed story order) := by
  refine .of_unit ?_ fun error herror => ?_
  · rw [validateListed, mapError_eq_ok, validateIn_eq_ok_iff_sound hperm]
  · rw [validateListed] at herror
    cases hfault : definition.validateIn order with
    | ok _ =>
      rw [hfault] at herror
      cases herror
    | error fault =>
      rw [hfault] at herror
      cases herror
      exact ⟨_, rfl⟩

/-- Two checks, one after the other, judge together what both judge. -/
theorem Judges.and {sound sound' : Prop} {check next : Except EngineError Unit}
    (h : Judges sound check) (hnext : Judges sound' next) :
    Judges (sound ∧ sound') (check >>= fun _ => next) := by
  rw [← h.accepts, ← hnext.accepts]
  cases check with
  | ok _ =>
    refine ⟨?_, hnext.refuses⟩
    exact ⟨fun hok => ⟨⟨(), rfl⟩, hok⟩, fun hok => hok.2⟩
  | error error =>
    refine ⟨⟨nofun, fun hok => nomatch hok.1⟩, fun other hother => ?_⟩
    cases hother
    exact h.refuses error rfl

/-- What is made of what passed a check is judged as the check is. -/
theorem Judges.bind_pure {α β : Type} {sound : Prop} {check : Except EngineError α}
    (h : Judges sound check) (make : α → β) :
    Judges sound (check >>= fun value => pure (make value)) := by
  cases check with
  | ok value =>
    refine ⟨?_, nofun⟩
    rw [← h.accepts]
    exact ⟨fun _ => ⟨value, rfl⟩, fun _ => ⟨make value, rfl⟩⟩
  | error error =>
    refine ⟨?_, fun other hother => ?_⟩
    · rw [← h.accepts]
      exact ⟨nofun, nofun⟩
    · cases hother
      exact h.refuses error rfl

namespace AppDefinition

/-- Orders in which the stories of a definition and the lines of each story are listed. -/
structure Listing (definition : AppDefinition) where
  stories : List (String × StoryDefinition)
  /-- The lines of the story with a name. -/
  lines : String → List (String × Line)
  stories_perm : stories.Perm definition.stories.stories.toList
  lines_perm : ∀ entry ∈ stories, (lines entry.1).Perm entry.2.tree.toList

/-- Checks stories in a given order, each with its lines listed in a given order. -/
def checkListed (lines : String → List (String × Line)) :
    List (String × StoryDefinition) → Except EngineError Unit
  | [] => .ok ()
  | (name, story) :: rest => do
    story.validateListed name (lines name)
    checkListed lines rest

/-- Checks a definition with its stories and lines listed in given orders. -/
def validateListed (definition : AppDefinition) (listing : definition.Listing) :
    Except EngineError Unit := do
  checkEntrypoints definition.stories.stories definition.stories.entrypoint
  checkListed listing.lines listing.stories

/-- Stories and lines in the order of their keys. -/
def byKey (definition : AppDefinition) : definition.Listing where
  stories := definition.stories.stories.toList
  lines name := (definition.stories.stories[name]?).elim [] fun story => story.tree.toList
  stories_perm := .refl _
  lines_perm entry hentry := by
    rw [Std.ExtTreeMap.mem_toList_iff_getElem?_eq_some.mp hentry]
    exact .refl _

/-- What a definition must be like for an application to be made from it. -/
structure Sound (definition : AppDefinition) : Prop where
  /-- Every story that runs at the start is there. -/
  entrypoints : ∀ name ∈ definition.stories.entrypoint, name ∈ definition.stories.stories
  /-- Every story has a sound line graph, whether or not it runs at the start. -/
  stories : ∀ (name : String) (story : StoryDefinition),
    definition.stories.stories[name]? = some story → story.Sound

/-- Stories are checked with their lines in the order in which these are listed. -/
theorem checkStories_eq_checkListed {lines : String → List (String × Line)}
    {stories : List (String × StoryDefinition)}
    (hlines : ∀ entry ∈ stories, lines entry.1 = entry.2.tree.toList) :
    checkStories stories = checkListed lines stories := by
  induction stories with
  | nil => rfl
  | cons first rest ih =>
    obtain ⟨hfirst, hrest⟩ := List.forall_mem_cons.mp hlines
    rw [checkStories, checkListed, ih hrest, hfirst]
    rfl

/-- A definition is checked with everything in the order of its keys. -/
theorem validate_eq (definition : AppDefinition) :
    definition.validate = definition.validateListed definition.byKey := by
  have hlines (entry : String × StoryDefinition)
      (hentry : entry ∈ definition.stories.stories.toList) :
      definition.byKey.lines entry.1 = entry.2.tree.toList := by
    show (definition.stories.stories[entry.1]?).elim [] _ = _
    rw [Std.ExtTreeMap.mem_toList_iff_getElem?_eq_some.mp hentry, Option.elim_some]
  rw [validate, validateListed, checkStories_eq_checkListed hlines]
  rfl

/-- The check of some names judges whether all of them are those of stories. -/
theorem judges_checkEntrypoints (stories : Table StoryDefinition) (names : List String) :
    Judges (∀ name ∈ names, name ∈ stories) (checkEntrypoints stories names) := by
  refine .of_unit checkEntrypoints_eq_ok fun error herror => ?_
  induction names with
  | nil => cases herror
  | cons first rest ih =>
    rw [checkEntrypoints] at herror
    split at herror
    · exact ih herror
    · cases herror
      exact ⟨_, rfl⟩

/-- The check of some stories judges whether all of them are sound. -/
theorem judges_checkListed {lines : String → List (String × Line)}
    {stories : List (String × StoryDefinition)}
    (hperm : ∀ entry ∈ stories, (lines entry.1).Perm entry.2.tree.toList) :
    Judges (∀ entry ∈ stories, entry.2.Sound) (checkListed lines stories) := by
  induction stories with
  | nil => exact .of_unit ⟨fun _ => List.forall_mem_nil _, fun _ => rfl⟩ nofun
  | cons first rest ih =>
    obtain ⟨hfirst, hrest⟩ := List.forall_mem_cons.mp hperm
    rw [List.forall_mem_cons, checkListed]
    exact (StoryDefinition.judges_validateListed hfirst first.1).and (ih hrest)

/-- The check of a definition judges whether it is sound, in whatever order its stories and their
lines are listed. -/
theorem judges_validateListed {definition : AppDefinition} (listing : definition.Listing) :
    Judges definition.Sound (definition.validateListed listing) := by
  have hsound : definition.Sound ↔
      (∀ name ∈ definition.stories.entrypoint, name ∈ definition.stories.stories) ∧
        ∀ entry ∈ listing.stories, entry.2.Sound := by
    simp only [Prod.forall, listing.stories_perm.mem_iff,
      Std.ExtTreeMap.mem_toList_iff_getElem?_eq_some]
    exact ⟨fun h => ⟨h.entrypoints, h.stories⟩, fun h => ⟨h.1, h.2⟩⟩
  rw [hsound, validateListed]
  exact (judges_checkEntrypoints _ _).and (judges_checkListed listing.lines_perm)

end AppDefinition

/-- The checks accept exactly what is sound, in whatever order stories and lines are listed, and
refuse everything else as a validation. They need no more steps along the lines of any story than
it has lines and one, even where its pointers lead nowhere or back. -/
theorem checks_judge_soundness :
    (∀ story : StoryDefinition,
      (∃ steps, steps ≤ story.tree.size + 1 ∧ (story.idAt steps = none ∨
        ∃ earlier, earlier < steps ∧ story.idAt earlier = story.idAt steps)) ∧
      (∀ more, StoryDefinition.walkFrom story.tree (story.tree.size + more) [] story.entrypoint =
        story.nextWalk) ∧
      ∀ name : String,
        (∀ order : List (String × Line), order.Perm story.tree.toList →
          Judges story.Sound (story.validateListed name order)) ∧
        Judges story.Sound (story.validate name)) ∧
    ∀ definition : AppDefinition,
      (∀ listing : definition.Listing,
        Judges definition.Sound (definition.validateListed listing)) ∧
      Judges definition.Sound definition.validate ∧
      ∀ config : AppConfig, Judges definition.Sound (App.create definition config) := by
  constructor
  · intro story
    refine ⟨story.exists_end_or_return, story.nextWalk_eq_of_more, fun name => ?_⟩
    exact ⟨fun _ hperm => StoryDefinition.judges_validateListed hperm name,
      StoryDefinition.judges_validateListed (.refl _) name⟩
  · intro definition
    have hvalidate : Judges definition.Sound definition.validate := by
      rw [definition.validate_eq]
      exact AppDefinition.judges_validateListed _
    exact ⟨AppDefinition.judges_validateListed, hvalidate, fun _ => hvalidate.bind_pure _⟩

/-- A story of two lines that follow each other in a circle. -/
def circleStory : Story :=
  .ofLines [
    { ln := "1", method := .execute, next := some "2" },
    { ln := "2", method := .execute, next := some "1" }]

/-- The story with a loop is accepted with its lines listed backwards, and two lines in a circle are
refused in either order. -/
theorem checks_judge_loopStory_and_circle :
    Interpreter.loopStory.definition.Sound ∧
    (∃ value, Interpreter.loopStory.definition.validateListed "a.story"
      Interpreter.loopStory.definition.tree.toList.reverse = .ok value) ∧
    ¬ circleStory.definition.Sound ∧
    circleStory.definition.validateListed "a.story" circleStory.definition.tree.toList.reverse =
      .error (.validation "a.story: cycle detected in line sequence at line 1") := by
  have hloop : Interpreter.loopStory.definition.validate "a.story" = .ok () := rfl
  have hcircle : circleStory.definition.validateListed "a.story"
      circleStory.definition.tree.toList.reverse =
      .error (.validation "a.story: cycle detected in line sequence at line 1") := rfl
  have hstory := ((checks_judge_soundness.1 Interpreter.loopStory.definition).2.2 "a.story")
  have hsound := hstory.2.accepts.mp ⟨(), hloop⟩
  refine ⟨hsound, (hstory.1 _ (List.reverse_perm _)).accepts.mpr hsound, fun hsound => ?_, hcircle⟩
  obtain ⟨_, hok⟩ := (((checks_judge_soundness.1 circleStory.definition).2.2 "a.story").1 _
    (List.reverse_perm _)).accepts.mpr hsound
  rw [hcircle] at hok
  cases hok

end StoryEngine

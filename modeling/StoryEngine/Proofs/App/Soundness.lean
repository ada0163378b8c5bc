import StoryEngine.Proofs.App.Stories
import StoryEngine.Proofs.Bootstrap.Faults

/-!
# Soundness of applications

An application is made from a definition that passes its checks only. So each of its stories passes
its own check, and each name that it runs at the start is that of a story. No walk of its stories
then comes to an id that no line has or comes back to a line, and none is longer than all lines of
the application.
-/

namespace StoryEngine

namespace AppDefinition

/-- Names pass their check if they are those of stories. -/
theorem checkEntrypoints_eq_ok {stories : Table StoryDefinition} {names : List String} :
    checkEntrypoints stories names = .ok () ↔ ∀ name ∈ names, name ∈ stories := by
  induction names with
  | nil => exact ⟨fun _ => nofun, fun _ => rfl⟩
  | cons first rest ih =>
    rw [List.forall_mem_cons, checkEntrypoints]
    split
    · rename_i hfirst
      rw [ih]
      exact ⟨fun hrest => ⟨hfirst, hrest⟩, fun hall => hall.2⟩
    · rename_i hfirst
      exact ⟨nofun, fun hall => absurd hall.1 hfirst⟩

/-- Stories pass their check together if each passes its own. -/
theorem checkStories_eq_ok {entries : List (String × StoryDefinition)} :
    checkStories entries = .ok () ↔ ∀ entry ∈ entries, entry.2.validate entry.1 = .ok () := by
  induction entries with
  | nil => exact ⟨fun _ => List.forall_mem_nil _, fun _ => rfl⟩
  | cons first rest ih => rw [checkStories, bind_unit_eq_ok, ih, List.forall_mem_cons]

end AppDefinition

/-- A number of a list is at most the sum of all that are counted for the list. -/
theorem le_foldl_add {α : Type} (count : α → Nat) {items : List α} {item : α}
    (hitem : item ∈ items) (start : Nat) :
    count item ≤ items.foldl (fun sum other => sum + count other) start := by
  have hstart (items : List α) (start : Nat) :
      start ≤ items.foldl (fun sum other => sum + count other) start := by
    induction items generalizing start with
    | nil => exact Nat.le_refl start
    | cons first rest ih => exact Nat.le_trans (Nat.le_add_right ..) (ih _)
  induction items generalizing start with
  | nil => cases hitem
  | cons first rest ih =>
    rcases List.mem_cons.mp hitem with rfl | hrest
    · exact Nat.le_trans (Nat.le_add_left ..) (hstart rest _)
    · exact ih hrest _

namespace App

/-- Whether the stories of an application are sound, and it has those that it runs at the start. -/
structure Sound (app : App) : Prop where
  stories : ∀ story ∈ app.allStories, story.definition.validate story.name = .ok ()
  entrypoints : ∀ name ∈ app.entrypoints, name ∈ app.stories

/-- An application that could be made is sound. -/
theorem sound_of_create {definition : AppDefinition} {config : AppConfig} {app : App}
    (hcreate : App.create definition config = .ok app) : app.Sound := by
  obtain ⟨_, hvalid, happ⟩ := bind_eq_ok.mp hcreate
  obtain ⟨hentrypoints, hstories⟩ := bind_unit_eq_ok.mp hvalid
  cases happ
  refine ⟨fun story hstory => ?_, AppDefinition.checkEntrypoints_eq_ok.mp hentrypoints⟩
  obtain ⟨entry, hentry, rfl⟩ := List.mem_map.mp hstory
  exact AppDefinition.checkStories_eq_ok.mp hstories entry hentry

/-- A walk of a story has no more lines than all stories have together. -/
theorem length_lines_le (app : App) {story : Story} (hstory : story ∈ app.allStories) :
    story.lines.length ≤ app.lineCount := by
  obtain ⟨entry, hentry, rfl⟩ := List.mem_map.mp hstory
  have hwalk := StoryDefinition.length_visited_walkFrom_le entry.2.tree entry.2.tree.size []
    entry.2.entrypoint
  calc
    _ = entry.2.nextWalk.visited.length := List.length_map ..
    _ ≤ entry.2.tree.size := hwalk
    _ ≤ app.lineCount := le_foldl_add (fun entry => entry.2.tree.size) hentry 0

variable {app : App}

/-- The walks of a sound application come to their ends. -/
theorem Sound.stop_eq_finished (h : app.Sound) {story : Story} (hstory : story ∈ app.allStories) :
    story.definition.nextWalk.stop = .finished :=
  (StoryDefinition.course_of_validate (h.stories story hstory)).2.2

/-- A sound application finds the stories that it runs at the start. -/
theorem Sound.exists_entrypoints (h : app.Sound) :
    ∃ stories : List Story, app.entrypoints.mapM app.story = .ok stories ∧
      stories.map Story.name = app.entrypoints ∧ ∀ story ∈ stories, story ∈ app.allStories := by
  have hnames := h.entrypoints
  generalize app.entrypoints = names at hnames
  induction names with
  | nil => exact ⟨[], rfl, rfl, nofun⟩
  | cons name rest ih =>
    obtain ⟨stories, hstories, hmap, hall⟩ := ih fun other hother =>
      hnames other (List.mem_cons_of_mem _ hother)
    have hname : (app.stories[name]?).isSome :=
      Std.ExtTreeMap.mem_iff_isSome_getElem?.mp (hnames name (List.mem_cons_self ..))
    obtain ⟨definition, hfound⟩ := Option.isSome_iff_exists.mp hname
    refine ⟨⟨name, definition, app.state⟩ :: stories, ?_, ?_, ?_⟩
    · rw [List.mapM_cons, hstories]
      simp only [App.story, hfound]
      rfl
    · rw [List.map_cons, hmap]
    · intro story hstory
      rcases List.mem_cons.mp hstory with rfl | hstory
      · exact List.mem_map.mpr
          ⟨_, Std.ExtTreeMap.mem_toList_iff_getElem?_eq_some.mpr hfound, rfl⟩
      · exact hall story hstory

end App

end StoryEngine

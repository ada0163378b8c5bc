import StoryEngine.App.Basic
import StoryEngine.Proofs.Success

/-!
# The stories of an application

An application has all the stories that it names, and takes them in the ascending order of their
names. How its table of stories was put together makes no difference to them.
-/

namespace StoryEngine.App

variable {σ κ η : Type}

/-- The stories of an application, in the order of their names. -/
def allStories (app : App) : List Story :=
  app.stories.toList.map fun entry => { name := entry.1, definition := entry.2, app := app.state }

/-- An application finds every story that it names. -/
theorem mapM_story_storyNames (app : App) : app.storyNames.mapM app.story = .ok app.allStories := by
  rw [storyNames, ← Std.ExtTreeMap.map_fst_toList_eq_keys]
  refine mapM_map_eq_ok fun entry hentry => ?_
  rw [story, Std.ExtTreeMap.mem_toList_iff_getElem?_eq_some.mp hentry]

/-- An application starts the containers that its stories need, in the order of their names. -/
theorem startServices_eq (app : App) (runtime : AppRuntime σ κ η) :
    app.startServices runtime =
      Live.onContainers (Bootstrap.startServices runtime.containers app.allStories) := by
  rw [startServices, mapM_story_storyNames]
  rfl

end StoryEngine.App

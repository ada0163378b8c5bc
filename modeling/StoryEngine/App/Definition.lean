import StoryEngine.App.State
import StoryEngine.Catalog.Format
import StoryEngine.Story.Validation

/-!
# Definitions of applications

What a release says about an application: its stories, which of them run first, its catalog and its
environment. A definition is sound if it has every story that it runs and every story is sound.
-/

namespace StoryEngine

/-- The stories of a release. -/
structure StoriesDocument where
  stories : Table StoryDefinition := ∅
  /-- The stories that run at the start, in order. -/
  entrypoint : List String := []
  deriving DecidableEq

namespace StoriesDocument

/-- Reads the stories of a release. -/
def ofRaw (raw : Json.Raw) : Json.Decoded StoriesDocument := do
  let fields ← raw.record ["stories", "entrypoint"]
  let stories ← fields.withDefault "stories" ∅ (Json.Raw.table StoryDefinition.ofRaw)
  let entrypoint ← fields.withDefault "entrypoint" [] (Json.Raw.items Json.Raw.text)
  pure { stories, entrypoint }

/-- The stories of a release as JSON. -/
def toJson (document : StoriesDocument) : Json :=
  .obj [
    ("entrypoint", .arr (document.entrypoint.map .str)),
    ("stories", Json.ofTableWith StoryDefinition.toJson document.stories)]

end StoriesDocument

/-- Everything that an application is made from. -/
structure AppDefinition where
  appId : String
  appDns : String
  version : UInt64
  ownerUuid : String
  stories : StoriesDocument := {}
  catalog : Catalog := {}
  environment : CaseMap Json := {}
  deriving DecidableEq

namespace AppDefinition

/-- Checks that stories with given names exist. -/
def checkEntrypoints (stories : Table StoryDefinition) : List String → Except EngineError Unit
  | [] => .ok ()
  | name :: rest =>
    if name ∈ stories then checkEntrypoints stories rest
    else .error (.validation s!"entrypoint {name} is not a known story")

/-- Checks stories in a given order. -/
def checkStories : List (String × StoryDefinition) → Except EngineError Unit
  | [] => .ok ()
  | (name, story) :: rest => do
    story.validate name
    checkStories rest

/-- Checks a definition. -/
def validate (definition : AppDefinition) : Except EngineError Unit := do
  checkEntrypoints definition.stories.stories definition.stories.entrypoint
  checkStories definition.stories.stories.toList

end AppDefinition

end StoryEngine

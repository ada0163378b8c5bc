import StoryEngine.App.Definition
import StoryEngine.Proofs.Catalog.Rereading
import StoryEngine.Proofs.Story.Rereading

/-!
# The formats of a release

The stories and the catalog of a release can be written and read again. What was read from a release
comes back as it was. What was made in another way comes back in canonical form, with every method
under its name and without run blocks that are null, and an application can hardly tell the
difference.
-/

namespace StoryEngine

namespace StoriesDocument

/-- The stories that are read where these were written. -/
def reread (document : StoriesDocument) : StoriesDocument :=
  { document with stories := document.stories.mapValues StoryDefinition.reread }

/-- Whether every method of the lines is known if its name is. -/
def Canonical (document : StoriesDocument) : Prop :=
  ∀ (name : String) (story : StoryDefinition),
    document.stories[name]? = some story → story.Canonical

theorem rereads : Json.Rereads ofRaw toJson reread where
  read_write document := by
    have hentrypoint := Json.rereads_text.items
    refine bind_eq_ok.mpr ⟨_, Json.Raw.record_obj (by simp) (by simp), ?_⟩
    refine bind_eq_ok.mpr ⟨_, Json.Fields.withDefault_written StoryDefinition.rereads.table rfl, ?_⟩
    refine bind_eq_ok.mpr ⟨_, Json.Fields.withDefault_written hentrypoint rfl, ?_⟩
    rw [List.map_id]
    rfl
  kept {raw document} hread := by
    simp only [ofRaw, bind_eq_ok] at hread
    obtain ⟨_, -, stories, hstories, _, -, hdocument⟩ := hread
    cases hdocument
    have hkept := Json.Fields.kept_of_withDefault StoryDefinition.rereads.table
      (Table.mapValues_empty _) hstories
    rw [reread, hkept]

theorem reread_eq_self_iff {document : StoriesDocument} :
    document.reread = document ↔ document.Canonical := by
  obtain ⟨stories, entrypoint⟩ := document
  have hstories : reread ⟨stories, entrypoint⟩ = ⟨stories, entrypoint⟩ ↔
      stories.mapValues StoryDefinition.reread = stories := by
    simp [reread]
  rw [hstories, Table.mapValues_eq_self_iff]
  simp only [StoryDefinition.reread_eq_self_iff, Canonical]

end StoriesDocument

namespace AppDefinition

theorem checkEntrypoints_reread (stories : Table StoryDefinition) (names : List String) :
    checkEntrypoints (stories.mapValues StoryDefinition.reread) names =
      checkEntrypoints stories names := by
  induction names with
  | nil => rfl
  | cons name names ih => simp only [checkEntrypoints, Table.mem_mapValues, ih]

theorem checkStories_reread (stories : List (String × StoryDefinition)) :
    checkStories (stories.map fun (name, story) => (name, story.reread)) =
      checkStories stories := by
  induction stories with
  | nil => rfl
  | cons entry stories ih =>
    simp only [List.map_cons, checkStories, StoryDefinition.validate_reread, ih]

/-- A definition is as sound with stories that were read again as it was before. -/
theorem validate_reread (definition : AppDefinition) :
    { definition with stories := definition.stories.reread }.validate = definition.validate := by
  simp only [validate, StoriesDocument.reread, Table.toList_mapValues, checkEntrypoints_reread,
    checkStories_reread]

/-- The stories and the services of a catalog that were read from a release come back as they were
when they are written and read again. Others do so exactly if they are in canonical form; the rest
come back in that form. Every method is written under the name by which it was read, whether it is
known or not. Stories that were read again are as sound as they were, checked in whatever order, and
a catalog that was read again resolves every line and every subscription as it did. A command shares
its container as it did unless it had a run block that was null. -/
theorem formats_read_back :
    (∀ (raw : Json.Raw) (document : StoriesDocument),
      StoriesDocument.ofRaw raw = .ok document →
        StoriesDocument.ofRaw (.value document.toJson) = .ok document) ∧
    (∀ (raw : Json.Raw) (services : Table ServiceDefinition),
      Catalog.servicesOfRaw raw = .ok services →
        Catalog.servicesOfRaw (.value (Catalog.servicesToJson services)) = .ok services) ∧
    (∀ document : StoriesDocument,
      StoriesDocument.ofRaw (.value document.toJson) = .ok document ↔ document.Canonical) ∧
    (∀ services : Table ServiceDefinition,
      Catalog.servicesOfRaw (.value (Catalog.servicesToJson services)) = .ok services ↔
        Catalog.Canonical services) ∧
    (∀ raw : Json.Raw, (Method.ofRaw raw).map Method.name = raw.text) ∧
    (∀ (raw : Json.Raw) (line : Line), Line.ofRaw raw = .ok line →
      ∃ (fields : Json.Fields) (name : String), raw.record Line.fieldNames = .ok fields ∧
        fields.required "method" Json.Raw.text = .ok name ∧
        line.toJson.member? "method" = some (.str name)) ∧
    (∀ document : StoriesDocument,
      StoriesDocument.ofRaw (.value document.toJson) = .ok document.reread ∧
      (∀ definition : AppDefinition, definition.stories = document →
        { definition with stories := document.reread }.validate = definition.validate) ∧
      ∀ (name : String) (story : StoryDefinition), document.stories[name]? = some story →
        document.reread.stories[name]? = some story.reread ∧
        ∀ order : List (String × Line),
          story.reread.validateIn (order.map fun (id, line) => (id, line.reread)) =
            story.validateIn order) ∧
    (∀ catalog : Catalog,
      Catalog.servicesOfRaw (.value (Catalog.servicesToJson catalog.services)) =
        .ok catalog.reread.services ∧
      (∀ story line, catalog.reread.resolve story line = catalog.resolve story line) ∧
      (∀ service command event, catalog.reread.unsubscribeTarget? service command event =
        catalog.unsubscribeTarget? service command event) ∧
      ∀ service command,
        catalog.reread.isReusable service command = catalog.isReusable service command ↔
          ∀ action, catalog.action? service command = some action → action.Canonical) := by
  refine ⟨fun raw document hread => ?_, fun raw services hread => ?_, fun document => ?_,
    fun services => ?_, fun raw => ?_, fun raw line hread => ?_, fun document => ⟨?_, ?_, ?_⟩,
    fun catalog => ⟨?_, ?_, ?_, ?_⟩⟩
  · exact StoriesDocument.rereads.read_write_of_read hread
  · exact Catalog.rereads_services.read_write_of_read hread
  · rw [StoriesDocument.rereads.read_write_eq_iff, StoriesDocument.reread_eq_self_iff]
  · rw [Catalog.rereads_services.read_write_eq_iff, Catalog.mapValues_reread_eq_self_iff]
  · exact Method.map_name_ofRaw raw
  · exact Line.method_written hread
  · exact StoriesDocument.rereads.read_write document
  · rintro definition rfl
    exact validate_reread definition
  · intro name story hstory
    refine ⟨?_, story.validateIn_reread⟩
    rw [StoriesDocument.reread, Table.getElem?_mapValues, hstory, Option.map_some]
  · exact Catalog.rereads_services.read_write catalog.services
  · exact catalog.resolve_reread
  · exact catalog.unsubscribeTarget?_reread
  · exact catalog.isReusable_reread_iff

/-- A line as a release may spell it, with a method that is not known and a field that no line
has. -/
def jumpText : Json.Raw :=
  .obj [("method", .value (.str "teleport")), ("speed", .unreadable), ("ln", .value (.str "2")),
    ("args", .obj [("to", .value (.str "1")), ("to", .value (.int 3))]), ("exit", .value .null)]

/-- The line that it stands for. -/
def jumpLine : Line where
  ln := "2"
  method := .other "teleport"
  args := .obj [("to", .int 3)]

/-- A story that has this line after another one. -/
def jumpStory : StoryDefinition where
  tree := .ofEntries [("1", { ln := "1", method := .set, next := some "2" }), ("2", jumpLine)]
  entrypoint := some "1"

/-- The stories of a release that runs this story. -/
def jumpStories : StoriesDocument where
  stories := .ofEntries [("a.story", jumpStory)]
  entrypoint := ["a.story"]

/-- The stories as a release may spell them, with a line that is an array of its fields. -/
def jumpStoriesText : Json.Raw :=
  .obj [("entrypoint", .arr [.value (.str "a.story")]),
    ("stories", .obj [("a.story", .obj [("entrypoint", .value (.str "1")),
      ("tree", .obj [("1", .arr [.value (.str "1"), .value (.str "set"), .value (.str "2")]),
        ("2", jumpText)])])])]

/-- A method that is not known and a run block that is null are read from a release. They are read
again as the same method and as no run block, and the stories are as sound as they were. -/
theorem jump_read_back :
    let catalogText : Json.Raw := .obj [("mailer", .obj [("config", .obj [("actions",
      .obj [("send", .obj [("run", .value .null)])])])])]
    let services : Table ServiceDefinition :=
      .ofEntries [("mailer", { config := { actions := .ofEntries [("send", {})] } })]
    let definition : AppDefinition :=
      { appId := "a", appDns := "a", version := 1, ownerUuid := "o", stories := jumpStories }
    (StoriesDocument.ofRaw jumpStoriesText = .ok jumpStories ∧
      StoriesDocument.ofRaw (.value jumpStories.toJson) = .ok jumpStories) ∧
    (Catalog.servicesOfRaw catalogText = .ok services ∧
      Catalog.servicesOfRaw (.value (Catalog.servicesToJson services)) = .ok services) ∧
    (Line.ofRaw jumpText = .ok jumpLine ∧
      ∃ (fields : Json.Fields) (name : String), jumpText.record Line.fieldNames = .ok fields ∧
        fields.required "method" Json.Raw.text = .ok name ∧
        jumpLine.toJson.member? "method" = some (.str name)) ∧
    (definition.stories = jumpStories ∧
      { definition with stories := jumpStories.reread }.validate = definition.validate) ∧
    (jumpStories.stories["a.story"]? = some jumpStory ∧
      jumpStories.reread.stories["a.story"]? = some jumpStory.reread) := by
  intro catalogText services definition
  obtain ⟨hstories, hservices, -, -, -, hmethod, hdocument, -⟩ := formats_read_back
  obtain ⟨-, hvalidate, hstory⟩ := hdocument jumpStories
  have hread : StoriesDocument.ofRaw jumpStoriesText = .ok jumpStories := rfl
  have hcatalog : Catalog.servicesOfRaw catalogText = .ok services := rfl
  have hline : Line.ofRaw jumpText = .ok jumpLine := rfl
  have hfound : jumpStories.stories["a.story"]? = some jumpStory := rfl
  exact ⟨⟨hread, hstories _ _ hread⟩, ⟨hcatalog, hservices _ _ hcatalog⟩,
    ⟨hline, hmethod _ _ hline⟩, ⟨rfl, hvalidate definition rfl⟩, hfound, (hstory _ _ hfound).1⟩

end AppDefinition

end StoryEngine

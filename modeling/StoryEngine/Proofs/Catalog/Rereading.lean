import StoryEngine.Catalog.Format
import StoryEngine.Catalog.Resolution
import StoryEngine.Proofs.Json.Rereading

/-!
# Catalogs that are written and read again

A run block that is null is written like one that is absent. A command with such a block has a
container of its own, and shares one once the catalog has been read again. This is all that reading
a catalog again can change.
-/

namespace StoryEngine

theorem rereads_port : Json.Rereads (Json.Raw.option Json.Raw.word16) portToJson id := by
  have h := Json.rereads_word16.option portToJson nofun rfl fun _ => rfl
  rwa [Option.map_id] at h

namespace Endpoint

theorem rereads : Json.Rereads ofRaw toJson id where
  read_write endpoint := by
    refine bind_eq_ok.mpr ⟨_, Json.Raw.record_obj (by simp) (by simp), ?_⟩
    refine bind_eq_ok.mpr ⟨_, Json.Fields.withDefault_written Json.rereads_optionText rfl, ?_⟩
    refine bind_eq_ok.mpr ⟨_, Json.Fields.withDefault_written rereads_port rfl, ?_⟩
    refine bind_eq_ok.mpr ⟨_, Json.Fields.required_written Json.rereads_text rfl, ?_⟩
    rfl
  kept _ := rfl

theorem rereads_option : Json.Rereads (Json.Raw.option ofRaw) toJson? id := by
  have h := rereads.option toJson? nofun rfl fun _ => rfl
  rwa [Option.map_id] at h

end Endpoint

namespace EventHttp

theorem rereads : Json.Rereads ofRaw toJson id where
  read_write http := by
    refine bind_eq_ok.mpr ⟨_, Json.Raw.record_obj (by simp) (by simp), ?_⟩
    refine bind_eq_ok.mpr ⟨_, Json.Fields.withDefault_written rereads_port rfl, ?_⟩
    refine bind_eq_ok.mpr ⟨_, Json.Fields.withDefault_written Endpoint.rereads_option rfl, ?_⟩
    refine bind_eq_ok.mpr ⟨_, Json.Fields.withDefault_written Endpoint.rereads_option rfl, ?_⟩
    rfl
  kept _ := rfl

end EventHttp

namespace EventConfig

theorem rereads : Json.Rereads ofRaw toJson id where
  read_write event := by
    have hhttp := EventHttp.rereads.option (fun http => (http.map EventHttp.toJson).getD .null)
      nofun rfl fun _ => rfl
    rw [Option.map_id] at hhttp
    have hjson : event.toJson = .obj [("http", (event.http.map EventHttp.toJson).getD .null)] := by
      cases event with
      | mk http => cases http <;> rfl
    rw [hjson]
    refine bind_eq_ok.mpr ⟨_, Json.Raw.record_obj (by simp) (by simp), ?_⟩
    refine bind_eq_ok.mpr ⟨_, Json.Fields.withDefault_written hhttp rfl, ?_⟩
    rfl
  kept _ := rfl

end EventConfig

namespace ActionConfig

/-- The command that is read where this one was written. -/
def reread (action : ActionConfig) : ActionConfig :=
  { action with runBlock := action.runBlock.filter fun json => json ≠ .null }

/-- Whether a run block that is there is not null. -/
def Canonical (action : ActionConfig) : Prop :=
  action.runBlock ≠ some .null

theorem rereads : Json.Rereads ofRaw toJson reread where
  read_write action := by
    have hevents := EventConfig.rereads.table
    refine bind_eq_ok.mpr ⟨_, Json.Raw.record_obj (by simp) (by simp), ?_⟩
    refine bind_eq_ok.mpr ⟨_, Json.Fields.withDefault_written hevents rfl, ?_⟩
    refine bind_eq_ok.mpr ⟨_, Json.Fields.withDefault_written Json.rereads_option_json rfl, ?_⟩
    rw [Table.mapValues_id]
    rfl
  kept {raw action} hread := by
    simp only [ofRaw, bind_eq_ok] at hread
    obtain ⟨_, -, _, -, runBlock, hrunBlock, haction⟩ := hread
    cases haction
    have hkept := Json.Fields.kept_of_withDefault Json.rereads_option_json rfl hrunBlock
    rw [reread, hkept]

theorem reread_eq_self_iff {action : ActionConfig} : action.reread = action ↔ action.Canonical := by
  obtain ⟨events, runBlock⟩ := action
  cases runBlock with
  | none => simp [reread, Canonical]
  | some json => simp [reread, Canonical, Option.filter_eq_some_iff]

end ActionConfig

namespace ServiceConfig

/-- The configuration that is read where this one was written. -/
def reread (config : ServiceConfig) : ServiceConfig where
  actions := config.actions.mapValues ActionConfig.reread

theorem rereads : Json.Rereads ofRaw toJson reread where
  read_write config := by
    refine bind_eq_ok.mpr ⟨_, Json.Raw.record_obj (by simp) (by simp), ?_⟩
    refine bind_eq_ok.mpr ⟨_, Json.Fields.withDefault_written ActionConfig.rereads.table rfl, ?_⟩
    rfl
  kept {raw config} hread := by
    simp only [ofRaw, bind_eq_ok] at hread
    obtain ⟨_, -, actions, hactions, hconfig⟩ := hread
    cases hconfig
    have hkept := Json.Fields.kept_of_withDefault ActionConfig.rereads.table
      (Table.mapValues_empty _) hactions
    rw [reread, hkept]

end ServiceConfig

namespace ServiceDefinition

/-- The service that is read where this one was written. -/
def reread (service : ServiceDefinition) : ServiceDefinition where
  config := service.config.reread

/-- Whether no command of the service has a run block that is null. -/
def Canonical (service : ServiceDefinition) : Prop :=
  ∀ (command : String) (action : ActionConfig),
    service.config.actions[command]? = some action → action.Canonical

theorem rereads : Json.Rereads ofRaw toJson reread where
  read_write service := by
    refine bind_eq_ok.mpr ⟨_, Json.Raw.record_obj (by simp) (by simp), ?_⟩
    refine bind_eq_ok.mpr ⟨_, Json.Fields.withDefault_written ServiceConfig.rereads rfl, ?_⟩
    rfl
  kept {raw service} hread := by
    simp only [ofRaw, bind_eq_ok] at hread
    obtain ⟨_, -, config, hconfig, hservice⟩ := hread
    cases hservice
    have hkept := Json.Fields.kept_of_withDefault ServiceConfig.rereads
      (congrArg ServiceConfig.mk (Table.mapValues_empty _)) hconfig
    rw [reread, hkept]

theorem reread_eq_self_iff {service : ServiceDefinition} :
    service.reread = service ↔ service.Canonical := by
  obtain ⟨⟨actions⟩⟩ := service
  have hactions : reread ⟨⟨actions⟩⟩ = ⟨⟨actions⟩⟩ ↔
      actions.mapValues ActionConfig.reread = actions := by
    simp [reread, ServiceConfig.reread]
  rw [hactions, Table.mapValues_eq_self_iff]
  simp only [ActionConfig.reread_eq_self_iff, Canonical]

end ServiceDefinition

namespace Catalog

/-- The catalog with its services as they are read again. -/
def reread (catalog : Catalog) : Catalog :=
  { catalog with services := catalog.services.mapValues ServiceDefinition.reread }

/-- Whether no command of a service has a run block that is null. -/
def Canonical (services : Table ServiceDefinition) : Prop :=
  ∀ (name : String) (service : ServiceDefinition),
    services[name]? = some service → service.Canonical

theorem mapValues_reread_eq_self_iff {services : Table ServiceDefinition} :
    services.mapValues ServiceDefinition.reread = services ↔ Canonical services := by
  rw [Table.mapValues_eq_self_iff]
  simp only [ServiceDefinition.reread_eq_self_iff, Canonical]

theorem rereads_services :
    Json.Rereads servicesOfRaw servicesToJson (Table.mapValues ServiceDefinition.reread) :=
  ServiceDefinition.rereads.table

variable (catalog : Catalog) (service command : String)

theorem action?_reread :
    catalog.reread.action? service command =
      (catalog.action? service command).map ActionConfig.reread := by
  simp only [action?, service?, reread, Table.getElem?_mapValues]
  cases hservice : catalog.services[service]? with
  | none => rfl
  | some definition =>
    exact Table.getElem?_mapValues ..

theorem mentions_reread : catalog.reread.mentions service = catalog.mentions service := by
  have hcontains : catalog.reread.services.contains service = catalog.services.contains service :=
    Std.ExtTreeMap.contains_map
  rw [mentions, hcontains, mentions]
  rfl

theorem resolve_reread (story : String) (line : Line) :
    catalog.reread.resolve story line = catalog.resolve story line := by
  have hknows (service command : String) :
      catalog.reread.knows service command = catalog.knows service command := by
    rw [knows, action?_reread, Option.isSome_map, knows]
    rfl
  simp only [resolve, chainOf, hknows, mentions_reread]

theorem unsubscribeTarget?_reread (event : String) :
    catalog.reread.unsubscribeTarget? service command event =
      catalog.unsubscribeTarget? service command event := by
  have hhttp : catalog.reread.eventHttp? service command event =
      catalog.eventHttp? service command event := by
    rw [eventHttp?, action?_reread, eventHttp?]
    cases catalog.action? service command <;> rfl
  rw [unsubscribeTarget?, hhttp, unsubscribeTarget?]

/-- Whether a command shares its container stays as it was, unless it has a run block that is
null. -/
theorem isReusable_reread_iff :
    catalog.reread.isReusable service command = catalog.isReusable service command ↔
      ∀ action, catalog.action? service command = some action → action.Canonical := by
  rw [isReusable, action?_reread, isReusable]
  cases haction : catalog.action? service command with
  | none => simp
  | some action =>
    obtain ⟨events, runBlock⟩ := action
    cases runBlock with
    | none => simp [ActionConfig.reread, ActionConfig.Canonical]
    | some json => simp [ActionConfig.reread, ActionConfig.Canonical]

end Catalog

end StoryEngine

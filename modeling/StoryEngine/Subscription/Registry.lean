import StoryEngine.Error
import StoryEngine.Subscription.Basic

/-!
# The subscription registry

The active subscriptions of an application by their ids.
-/

namespace StoryEngine

/-- Whether each subscription of a table is filed under its id. -/
def Filed (subscriptions : Table Subscription) : Prop :=
  ∀ (id : String) (subscription : Subscription),
    subscriptions[id]? = some subscription → subscription.id = id

/-- An empty table has nothing that could be out of place. -/
theorem filed_empty : Filed ∅ := by
  intro id subscription hfound
  rw [Std.ExtTreeMap.getElem?_empty] at hfound
  cases hfound

/-- The active subscriptions, each filed under its id. -/
structure Registry where
  subscriptions : Table Subscription := ∅
  filed : Filed subscriptions := by exact filed_empty
  deriving DecidableEq

namespace Registry

/-- Registers a subscription, in place of any with the same id. -/
def add (registry : Registry) (id : String) (service : StreamingService) (event : String)
    (payload : Json) (now : Timestamp) : Registry where
  subscriptions := registry.subscriptions.insert id
    { id := id, service := service, event := event, payload := payload, subscribedAt := now }
  filed other subscription hother := by
    rw [Std.ExtTreeMap.getElem?_insert] at hother
    split at hother
    · rename_i heq
      cases hother
      exact Std.LawfulEqCmp.eq_of_compare heq
    · exact registry.filed other subscription hother

/-- The subscription with an id. -/
def get? (registry : Registry) (id : String) : Option Subscription :=
  registry.subscriptions[id]?

/-- Drops the subscription with an id. -/
def erase (registry : Registry) (id : String) : Registry where
  subscriptions := registry.subscriptions.erase id
  filed other subscription hother := by
    rw [Std.ExtTreeMap.getElem?_erase] at hother
    split at hother
    · cases hother
    · exact registry.filed other subscription hother

/-- Removes a subscription, which must be registered, and returns it. -/
def remove (registry : Registry) (id : String) : Except EngineError (Subscription × Registry) :=
  match registry.get? id with
  | some subscription => .ok (subscription, registry.erase id)
  | none => .error (.subscriptionNotFound id)

/-- Every registered subscription once. -/
def snapshot (registry : Registry) : List Subscription :=
  registry.subscriptions.toList.map Prod.snd

/-- Number of registered subscriptions. -/
def size (registry : Registry) : Nat :=
  registry.subscriptions.size

/-- Whether nothing is registered. -/
def isEmpty (registry : Registry) : Bool :=
  registry.subscriptions.isEmpty

/-- Drops every subscription. -/
def clear (_ : Registry) : Registry :=
  {}

@[simp] theorem get?_clear (registry : Registry) (id : String) : registry.clear.get? id = none := by
  simp [clear, get?]

/-- A subscription is found under the id with which it was registered last. -/
theorem get?_add (registry : Registry) (id other : String) (service : StreamingService)
    (event : String) (payload : Json) (now : Timestamp) :
    (registry.add id service event payload now).get? other =
      if id = other then
        some { id := id, service := service, event := event, payload := payload
               subscribedAt := now }
      else
        registry.get? other := by
  simp only [get?, add, Std.ExtTreeMap.getElem?_insert, Std.LawfulEqCmp.compare_eq_iff_eq]

/-- A subscription that was dropped is not found, and the others are as before. -/
theorem get?_erase (registry : Registry) (id other : String) :
    (registry.erase id).get? other = if id = other then none else registry.get? other := by
  simp only [get?, erase, Std.ExtTreeMap.getElem?_erase, Std.LawfulEqCmp.compare_eq_iff_eq]

/-- Removing a registered subscription gives it back and takes it out of the table. -/
theorem remove_of_get? {registry : Registry} {id : String} {subscription : Subscription}
    (h : registry.get? id = some subscription) :
    registry.remove id = .ok (subscription, registry.erase id) := by
  simp [remove, h]

/-- An id that is not registered cannot be removed. -/
theorem remove_of_get?_eq_none {registry : Registry} {id : String}
    (h : registry.get? id = none) : registry.remove id = .error (.subscriptionNotFound id) := by
  simp [remove, h]

/-- The snapshot has what is found by id. -/
theorem mem_snapshot {registry : Registry} {subscription : Subscription} :
    subscription ∈ registry.snapshot ↔ registry.get? subscription.id = some subscription := by
  rw [snapshot, List.mem_map]
  constructor
  · rintro ⟨⟨id, found⟩, hentry, rfl⟩
    have hfound := Std.ExtTreeMap.mem_toList_iff_getElem?_eq_some.mp hentry
    show registry.subscriptions[found.id]? = some found
    rw [registry.filed id found hfound, hfound]
  · intro hfound
    exact ⟨(subscription.id, subscription),
      Std.ExtTreeMap.mem_toList_iff_getElem?_eq_some.mpr hfound, rfl⟩

/-- The snapshot has as many subscriptions as are registered. -/
theorem length_snapshot (registry : Registry) : registry.snapshot.length = registry.size := by
  rw [snapshot, List.length_map, Std.ExtTreeMap.length_toList, size]

/-- The ids of a snapshot are those of the table. -/
theorem map_id_snapshot (registry : Registry) :
    registry.snapshot.map Subscription.id = registry.subscriptions.keys := by
  rw [snapshot, List.map_map, ← Std.ExtTreeMap.map_fst_toList_eq_keys]
  refine List.map_congr_left fun entry hentry => ?_
  exact registry.filed _ _ (Std.ExtTreeMap.mem_toList_iff_getElem?_eq_some.mp hentry)

/-- No id comes twice in a snapshot. -/
theorem nodup_map_id_snapshot (registry : Registry) :
    (registry.snapshot.map Subscription.id).Nodup := by
  rw [map_id_snapshot]
  exact registry.subscriptions.distinct_keys.imp fun hne heq =>
    hne (Std.LawfulEqCmp.compare_eq_iff_eq.mpr heq)

end Registry

end StoryEngine

import StoryEngine.Proofs.Lasting
import StoryEngine.Subscription.Handle

/-!
# What a registry answers after a history

All handles on a registry make calls on one table, so that each answer can be told from the calls
made before, through whatever handle: a subscription is registered as long as no later call has
registered its id again, removed it, or dropped everything.
-/

namespace StoryEngine

namespace Registry

/-- Whether a call leaves what is registered under an id as it is. -/
def Call.Spares (id : String) : Call → Prop
  | add other .. | remove other => other ≠ id
  | clear => False
  | get _ | snapshot | size | isEmpty => True

/-- The call that registers a subscription. -/
def Call.registers (subscription : Subscription) : Call :=
  .add subscription.id subscription.service subscription.event subscription.payload
    subscription.subscribedAt

/-- Whether a subscription is live after some calls: one of them registered it, and no call after
that has to do with its id. -/
def Live (calls : List Call) (subscription : Subscription) : Prop :=
  Lasts (Call.Spares subscription.id) calls (.registers subscription)

/-- Whether the answer to a call is right after some calls. -/
def Call.Answered (calls : List Call) : Call → Answer → Prop
  | add .., .done | clear, .done => True
  | get id, .found subscription? =>
    ∀ subscription, subscription? = some subscription ↔
      subscription.id = id ∧ Live calls subscription
  | remove id, .removed subscription => subscription.id = id ∧ Live calls subscription
  | remove id, .failed error =>
    error = .subscriptionNotFound id ∧ ∀ subscription, Live calls subscription → subscription.id ≠ id
  -- The subscriptions may be listed in any order.
  | snapshot, .listed subscriptions =>
    ∀ order : List Subscription, order.Perm subscriptions →
      (order.map Subscription.id).Nodup ∧
        ∀ subscription, subscription ∈ order ↔ Live calls subscription
  | size, .count number =>
    ∃ ids : List String, ids.Nodup ∧ number = ids.length ∧
      ∀ id, id ∈ ids ↔ ∃ subscription, subscription.id = id ∧ Live calls subscription
  | isEmpty, .flag holds => holds = true ↔ ∀ subscription, ¬ Live calls subscription
  | _, _ => False

/-- Whether a registry has under each id the subscription that is live after some calls. -/
def Holds (registry : Registry) (calls : List Call) : Prop :=
  ∀ (id : String) (subscription : Subscription),
    registry.get? id = some subscription ↔ subscription.id = id ∧ Live calls subscription

/-- A removal of a registered subscription, from one registry to another. -/
structure Removes (registry : Registry) (subscription : Subscription) (left : Registry) : Prop where
  found : registry.get? subscription.id = some subscription
  gone : left.get? subscription.id = none
  others : ∀ id, id ≠ subscription.id → left.get? id = registry.get? id

/-- What becomes of a registry after some calls. -/
structure TellsHistory (registry : Registry) (calls : List Call) : Prop where
  /-- Every subscription is stored under its id. -/
  filed : ∀ (id : String) (subscription : Subscription),
    registry.subscriptions[id]? = some subscription → subscription.id = id
  /-- What is found is what is live. -/
  holds : registry.Holds calls
  /-- A live subscription can be removed, and nothing else goes with it. -/
  removed : ∀ subscription, Live calls subscription →
    ∃ left, registry.perform (.remove subscription.id) = (.removed subscription, left) ∧
      registry.Removes subscription left
  /-- Removing an id without a live subscription fails and leaves the registry as it is. -/
  failed : ∀ id, (∀ subscription, Live calls subscription → subscription.id ≠ id) →
    registry.perform (.remove id) = (.failed (.subscriptionNotFound id), registry)

/-- The last call registers a subscription, or else spares one that is live before it. -/
theorem live_concat {calls : List Call} {last : Call} {subscription : Subscription} :
    Live (calls ++ [last]) subscription ↔
      last = .registers subscription ∨ last.Spares subscription.id ∧ Live calls subscription :=
  lasts_concat

theorem holds_empty : Holds {} [] := by
  intro id subscription
  refine iff_of_false ?_ fun h => not_lasts_nil h.2
  rw [show get? {} id = none from get?_clear {} id]
  exact nofun

/-- A removal leaves everything but what is removed, whether it fails or not. -/
theorem get?_perform_remove (registry : Registry) (id other : String) :
    (registry.perform (.remove id)).2.get? other =
      if id = other then none else registry.get? other := by
  cases hfound : registry.get? id with
  | some subscription =>
    simp only [perform, remove_of_get? hfound]
    exact get?_erase registry id other
  | none =>
    simp only [perform, remove_of_get?_eq_none hfound]
    split
    · rename_i heq
      rw [← heq, hfound]
    · rfl

namespace Holds

variable {registry : Registry} {calls : List Call}

/-- What a call leaves is what is live after it. -/
theorem perform (h : registry.Holds calls) (call : Call) :
    (registry.perform call).2.Holds (calls ++ [call]) := by
  intro id subscription
  rw [live_concat]
  cases call with
  | add other service event payload now =>
    show (registry.add other service event payload now).get? id = some subscription ↔ _
    rw [get?_add]
    simp only [Call.registers, Call.Spares, Call.add.injEq]
    split
    · rename_i heq
      rw [Option.some.injEq]
      constructor
      · rintro rfl
        exact ⟨heq, .inl ⟨rfl, rfl, rfl, rfl, rfl⟩⟩
      · rintro ⟨hid, ⟨rfl, rfl, rfl, rfl, rfl⟩ | ⟨hne, -⟩⟩
        · rfl
        · exact absurd (heq.trans hid.symm) hne
    · rename_i hne
      rw [h id subscription]
      constructor
      · rintro ⟨rfl, hlive⟩
        exact ⟨rfl, .inr ⟨hne, hlive⟩⟩
      · rintro ⟨rfl, ⟨heq, -⟩ | ⟨-, hlive⟩⟩
        · exact absurd heq hne
        · exact ⟨rfl, hlive⟩
  | remove other =>
    rw [get?_perform_remove]
    simp only [Call.registers, Call.Spares, reduceCtorEq, false_or]
    split
    · rename_i heq
      refine iff_of_false nofun ?_
      rintro ⟨rfl, hne, -⟩
      exact hne heq
    · rename_i hne
      rw [h id subscription]
      constructor
      · rintro ⟨rfl, hlive⟩
        exact ⟨rfl, hne, hlive⟩
      · rintro ⟨rfl, -, hlive⟩
        exact ⟨rfl, hlive⟩
  | clear =>
    simp only [Call.registers, Call.Spares, reduceCtorEq, false_or, false_and, and_false,
      iff_false]
    rw [show (registry.perform .clear).2.get? id = none from get?_clear registry id]
    exact nofun
  | get _ | snapshot | size | isEmpty =>
    simp only [Call.registers, Call.Spares, reduceCtorEq, false_or, true_and]
    exact h id subscription

/-- An id is stored if a subscription of it is live. -/
theorem mem_iff (h : registry.Holds calls) {id : String} :
    id ∈ registry.subscriptions ↔ ∃ subscription, subscription.id = id ∧ Live calls subscription := by
  rw [Std.ExtTreeMap.mem_iff_isSome_getElem?, Option.isSome_iff_exists]
  exact exists_congr (h id)

/-- The snapshot has the live subscriptions. -/
theorem mem_snapshot (h : registry.Holds calls) {subscription : Subscription} :
    subscription ∈ registry.snapshot ↔ Live calls subscription := by
  rw [Registry.mem_snapshot, h subscription.id subscription, eq_self, true_and]

/-- An id without a live subscription is not found. -/
theorem get?_eq_none (h : registry.Holds calls) {id : String}
    (hnone : ∀ subscription, Live calls subscription → subscription.id ≠ id) :
    registry.get? id = none := by
  refine Option.eq_none_iff_forall_ne_some.mpr fun subscription hfound => ?_
  obtain ⟨hid, hlive⟩ := (h id subscription).mp hfound
  exact hnone subscription hlive hid

/-- A registry is empty if nothing is live. -/
theorem isEmpty_iff (h : registry.Holds calls) :
    registry.isEmpty = true ↔ ∀ subscription, ¬ Live calls subscription := by
  rw [isEmpty, Std.ExtTreeMap.isEmpty_iff, Std.ExtTreeMap.eq_empty_iff_forall_not_mem]
  simp only [h.mem_iff]
  constructor
  · intro hnone subscription hlive
    exact hnone subscription.id ⟨subscription, rfl, hlive⟩
  · rintro hnone id ⟨subscription, -, hlive⟩
    exact hnone subscription hlive

/-- Every call is answered as the calls before it tell. -/
theorem answered (h : registry.Holds calls) (call : Call) :
    call.Answered calls (registry.perform call).1 := by
  cases call with
  | add id service event payload now => trivial
  | clear => trivial
  | get id => exact h id
  | remove id =>
    cases hfound : registry.get? id with
    | some subscription =>
      simp only [Registry.perform, remove_of_get? hfound]
      exact (h id subscription).mp hfound
    | none =>
      simp only [Registry.perform, remove_of_get?_eq_none hfound]
      refine ⟨rfl, fun subscription hlive hid => ?_⟩
      rw [(h id subscription).mpr ⟨hid, hlive⟩] at hfound
      cases hfound
  | snapshot =>
    intro order hperm
    refine ⟨(hperm.map _).nodup_iff.mpr registry.nodup_map_id_snapshot, fun subscription => ?_⟩
    rw [hperm.mem_iff, h.mem_snapshot]
  | size =>
    refine ⟨registry.subscriptions.keys, registry.subscriptions.nodup_keys, ?_, fun id => ?_⟩
    · exact Std.ExtTreeMap.length_keys.symm
    · rw [Std.ExtTreeMap.mem_keys, h.mem_iff]
  | isEmpty => exact h.isEmpty_iff

/-- What a registry holds tells its history. -/
theorem tellsHistory (h : registry.Holds calls) : registry.TellsHistory calls := by
  constructor
  case filed => exact registry.filed
  case holds => exact h
  case removed =>
    intro subscription hlive
    have hfound : registry.get? subscription.id = some subscription :=
      (h subscription.id subscription).mpr ⟨rfl, hlive⟩
    refine ⟨registry.erase subscription.id, ?_, hfound, ?_, fun id hne => ?_⟩
    · simp only [Registry.perform, remove_of_get? hfound]
    · rw [get?_erase, if_pos rfl]
    · rw [get?_erase, if_neg (Ne.symm hne)]
  case failed =>
    intro id hnone
    simp only [Registry.perform, remove_of_get?_eq_none (h.get?_eq_none hnone)]

end Holds

end Registry

namespace Registries

/-- The calls that were made on the registry at a place, through whatever handles. -/
def callsOn (place : Nat) (exchanges : List Exchange) : List Registry.Call :=
  (exchanges.filter (·.place = place)).map Exchange.call

/-- What there is after some calls. -/
structure Consistent (program : Registries) (exchanges : List Exchange) : Prop where
  /-- A handle stays on its registry. -/
  placed : ∀ exchange ∈ exchanges, program.handles[exchange.handle]? = some exchange.place
  /-- Every call was answered as the earlier ones on the same registry tell. -/
  answered : ∀ (number : Nat) (exchange : Exchange), exchanges[number]? = some exchange →
    exchange.call.Answered (callsOn exchange.place (exchanges.take number)) exchange.answer
  /-- Every registry holds what is live after the calls on it. -/
  holds : ∀ (place : Nat) (registry : Registry), program.registries[place]? = some registry →
    registry.Holds (callsOn place exchanges)

section

variable {program : Registries} {exchanges : List Exchange} {last : Exchange} {place : Nat}

/-- A call counts for the registry that it is made on, and for no other. -/
theorem callsOn_concat : callsOn place (exchanges ++ [last]) =
    callsOn place exchanges ++ if last.place = place then [last.call] else [] := by
  rw [callsOn, List.filter_append, List.map_append]
  congr 1
  by_cases hplace : last.place = place <;> simp [hplace]

/-- A registry without calls has no history. -/
theorem callsOn_eq_nil (h : ∀ exchange ∈ exchanges, exchange.place ≠ place) :
    callsOn place exchanges = [] := by
  rw [callsOn, List.map_eq_nil_iff, List.filter_eq_nil_iff]
  intro exchange hexchange
  rw [decide_eq_true_eq]
  exact h exchange hexchange

/-- If all calls are on one registry, they are its history. -/
theorem callsOn_eq_map (h : ∀ exchange ∈ exchanges, exchange.place = place) :
    callsOn place exchanges = exchanges.map Exchange.call := by
  rw [callsOn, List.filter_eq_self.mpr fun exchange hexchange =>
    decide_eq_true (h exchange hexchange)]

theorem consistent_empty : Consistent {} [] where
  placed := List.forall_mem_nil _
  answered _ _ hexchange := nomatch hexchange
  holds _ _ hregistry := nomatch hregistry

namespace Consistent

/-- Calls are made on registries that there are. -/
theorem place_lt (h : program.Consistent exchanges) :
    ∀ exchange ∈ exchanges, exchange.place < program.registries.length :=
  fun exchange hexchange =>
    program.valid exchange.place (List.mem_of_getElem? (h.placed exchange hexchange))

/-- A handle stays on its registry when others are made. -/
theorem placed_append (h : program.Consistent exchanges) (more : List Nat) :
    ∀ exchange ∈ exchanges, (program.handles ++ more)[exchange.handle]? = some exchange.place := by
  intro exchange hexchange
  have hplaced := h.placed exchange hexchange
  rw [List.getElem?_append_left (List.getElem?_eq_some_iff.mp hplaced).1, hplaced]

/-- A call that follows is answered too. -/
theorem answered_concat (h : program.Consistent exchanges)
    (hlast : last.call.Answered (callsOn last.place exchanges) last.answer) :
    ∀ (number : Nat) (exchange : Exchange), (exchanges ++ [last])[number]? = some exchange →
      exchange.call.Answered (callsOn exchange.place ((exchanges ++ [last]).take number))
        exchange.answer := by
  intro number exchange hexchange
  rcases Nat.lt_or_ge number exchanges.length with hlt | hge
  · rw [List.getElem?_append_left hlt] at hexchange
    rw [List.take_append_of_le_length (Nat.le_of_lt hlt)]
    exact h.answered number exchange hexchange
  · rw [List.getElem?_append_right hge, List.getElem?_singleton] at hexchange
    split at hexchange
    · rename_i hfirst
      cases hexchange
      rw [Nat.le_antisymm (Nat.le_of_sub_eq_zero hfirst) hge, List.take_left]
      exact hlast
    · cases hexchange

theorem create (h : program.Consistent exchanges) : program.create.Consistent exchanges where
  placed := h.placed_append _
  answered := h.answered
  holds place registry hregistry := by
    rcases Nat.lt_or_ge place program.registries.length with hlt | hge
    · rw [Registries.create, List.getElem?_append_left hlt] at hregistry
      exact h.holds place registry hregistry
    · rw [Registries.create, List.getElem?_append_right hge, List.getElem?_singleton] at hregistry
      split at hregistry
      · cases hregistry
        rw [callsOn_eq_nil fun exchange hexchange =>
          Nat.ne_of_lt (Nat.lt_of_lt_of_le (h.place_lt exchange hexchange) hge)]
        exact Registry.holds_empty
      · cases hregistry

theorem clone (h : program.Consistent exchanges) (handle : Fin program.handles.length) :
    (program.clone handle).Consistent exchanges where
  placed := h.placed_append _
  answered := h.answered
  holds := h.holds

theorem call (h : program.Consistent exchanges) (handle : Fin program.handles.length)
    (call : Registry.Call) :
    (program.call handle call).1.Consistent (exchanges ++ [(program.call handle call).2]) := by
  have hregistry := List.getElem?_eq_getElem (program.place handle).isLt
  have hholds := h.holds _ _ hregistry
  constructor
  case placed =>
    refine List.forall_mem_append.mpr ⟨h.placed, List.forall_mem_singleton.mpr ?_⟩
    exact List.getElem?_eq_getElem handle.isLt
  case answered => exact h.answered_concat (hholds.answered call)
  case holds =>
    intro place registry hput
    rw [callsOn_concat]
    by_cases hplace : (program.place handle : Nat) = place
    · subst hplace
      have hsame : (program.call handle call).1.registries[(program.place handle : Nat)]? =
          some (program.registries[program.place handle].perform call).2 :=
        List.getElem?_set_self (program.place handle).isLt
      rw [hsame] at hput
      cases hput
      have hcounted : (program.call handle call).2.place = program.place handle := rfl
      rw [if_pos hcounted]
      exact hholds.perform call
    · have hother : (program.call handle call).1.registries[place]? = program.registries[place]? :=
        List.getElem?_set_ne hplace
      rw [hother] at hput
      have hspared : (program.call handle call).2.place ≠ place := hplace
      rw [if_neg hspared, List.append_nil]
      exact h.holds place registry hput

/-- A step keeps what there is consistent with the calls. -/
theorem step (h : program.Consistent exchanges) (first : Step) :
    (program.step first).1.Consistent (exchanges ++ (program.step first).2.toList) := by
  cases first with
  | create =>
    rw [Registries.step, Option.toList_none, List.append_nil]
    exact h.create
  | clone handle =>
    rw [Registries.step]
    split
    · rw [Option.toList_none, List.append_nil]
      exact h.clone _
    · rw [Option.toList_none, List.append_nil]
      exact h
  | call handle call =>
    rw [Registries.step]
    split
    · exact h.call _ call
    · rw [Option.toList_none, List.append_nil]
      exact h

/-- So do all steps of a program. -/
theorem run (h : program.Consistent exchanges) (steps : List Step) :
    (program.run steps).1.Consistent (exchanges ++ (program.run steps).2) := by
  induction steps generalizing program exchanges with
  | nil =>
    rw [Registries.run, List.append_nil]
    exact h
  | cons first rest ih =>
    have hrest := ih (h.step first)
    rw [List.append_assoc] at hrest
    exact hrest

end Consistent

/-- Only one kind of step makes a registry. -/
theorem length_registries_step (first : Step) :
    (program.step first).1.registries.length =
      program.registries.length + [first].count .create := by
  cases first with
  | create => exact List.length_append
  | clone handle =>
    rw [step]
    split <;> rfl
  | call handle call =>
    rw [step]
    split
    · exact List.length_set
    · rfl

/-- There are as many registries as were made. -/
theorem length_registries_run (steps : List Step) :
    (program.run steps).1.registries.length = program.registries.length + steps.count .create := by
  induction steps generalizing program with
  | nil => rfl
  | cons first rest ih =>
    rw [run, ih, length_registries_step, Nat.add_assoc, ← List.count_append, List.singleton_append]

end

/-- Whatever steps a program takes, a handle stays on its registry, every call is answered as the
earlier calls on the same registry tell, through whatever handles they were made, and every registry
tells its history. If only one registry is made, this is the history of all calls. -/
theorem registries_tell_history (steps : List Step) :
    let program := (run {} steps).1
    let exchanges := (run {} steps).2
    (∀ exchange ∈ exchanges, program.handles[exchange.handle]? = some exchange.place) ∧
    (∀ (number : Nat) (exchange : Exchange), exchanges[number]? = some exchange →
      exchange.call.Answered (callsOn exchange.place (exchanges.take number)) exchange.answer) ∧
    (∀ (place : Nat) (registry : Registry), program.registries[place]? = some registry →
      registry.TellsHistory (callsOn place exchanges)) ∧
    (steps.count .create ≤ 1 → ∀ number,
      callsOn 0 (exchanges.take number) = (exchanges.take number).map Exchange.call) := by
  intro program exchanges
  have h : program.Consistent exchanges := consistent_empty.run steps
  refine ⟨h.placed, h.answered, fun place registry hregistry =>
    (h.holds place registry hregistry).tellsHistory, fun hone number => ?_⟩
  have hlength : program.registries.length = 0 + steps.count .create := length_registries_run steps
  refine callsOn_eq_map fun exchange hexchange => ?_
  have hplace := h.place_lt exchange (List.mem_of_mem_take hexchange)
  omega

/-- A service that holds subscriptions. -/
def feedService : StreamingService where
  name := "feed"
  command := "watch"
  containerName := "feed-1"
  hostname := "feed"

/-- Through one handle a subscription is registered, and through a clone of it the id is taken for
another event. What is removed then through the first handle is the second one, and nothing is left
to be removed again. -/
theorem clone_replaces_subscription :
    let later : Subscription :=
      { id := "s1", service := feedService, event := "update", payload := .null
        subscribedAt := ⟨0, 1, 0⟩ }
    let steps : List Step := [.create, .clone 0,
      .call 0 (.add "s1" feedService "item" .null ⟨0, 0, 0⟩),
      .call 1 (.add "s1" feedService "update" .null ⟨0, 1, 0⟩),
      .call 0 .snapshot, .call 0 (.remove "s1"), .call 1 (.remove "s1")]
    let exchanges := (run {} steps).2
    exchanges.map Exchange.answer = [.done, .done, .listed [later], .removed later,
      .failed (.subscriptionNotFound "s1")] ∧
    Registry.Live (callsOn 0 (exchanges.take 3)) later := by
  intro later steps exchanges
  obtain ⟨-, hanswered, -, -⟩ := registries_tell_history steps
  have hremoved : exchanges[3]? = some ⟨0, 0, .remove "s1", .removed later⟩ := by decide +kernel
  exact ⟨by decide +kernel, (hanswered 3 _ hremoved).2⟩

end Registries

end StoryEngine

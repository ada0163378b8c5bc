import StoryEngine.Proofs.CaseMap.Reading

/-!
# The secrets of an application

The secrets that an application shows to its stories are the entries of its environment whose values
are not objects. They are put in one by one, in whatever order the environment lists them, into a
map that keeps one entry for each form. None takes the place of another, because the environment has
no two entries of one form itself.
-/

namespace StoryEngine.AppContext

/-- Whether secrets are the flat part of an environment. -/
structure AreFlatPart (environment secrets : CaseMap Json) : Prop where
  /-- In every spelling, a key has the value that it has in the environment, unless that is an
  object. -/
  get?_eq : ∀ key, secrets.get? key = (environment.get? key).filter fun value => !value.isObject
  contains_iff : ∀ key, secrets.contains key = true ↔
    ∃ value, environment.get? key = some value ∧ value.isObject = false
  /-- In whatever order they are listed, no two of them differ in case only, and they are the
  entries of the environment that are not objects, in the spelling that they have there. -/
  listed : ∀ order : List (String × Json), order.Perm secrets.toList →
    (order.map fun entry => CaseMap.keyForm entry.1).Nodup ∧
      ∀ key value, (key, value) ∈ order ↔
        (key, value) ∈ environment.toList ∧ value.isObject = false
  size_eq : secrets.size = environment.toList.countP fun entry => !entry.2.isObject

variable {environment : CaseMap Json} {writes : List (CaseMap.Write Json)}

/-- The secrets are stored as the environment stores them. -/
theorem entries_secrets (h : environment.Holds writes) (appDns appDomain : String)
    (version : UInt64) :
    (derive environment appDns appDomain version).secrets.entries =
      environment.entries.filter fun _ entry => !entry.2.isObject :=
  h.entries_ofList_filter _ (.refl _)

/-- The secrets are listed as the environment lists them. -/
theorem toList_secrets (h : environment.Holds writes) (appDns appDomain : String)
    (version : UInt64) :
    (derive environment appDns appDomain version).secrets.toList =
      environment.toList.filter fun entry => !entry.2.isObject := by
  rw [CaseMap.toList, entries_secrets h, Std.ExtTreeMap.toList_filter, CaseMap.toList,
    List.filter_map]
  rfl

/-- A key has the value that it has in the environment, unless that is an object. -/
theorem get?_secrets (h : environment.Holds writes) (appDns appDomain : String)
    (version : UInt64) (key : String) :
    (derive environment appDns appDomain version).secrets.get? key =
      (environment.get? key).filter fun value => !value.isObject := by
  rw [CaseMap.get?, entries_secrets h, Std.ExtTreeMap.getElem?_filter', CaseMap.get?,
    Option.filter_map]
  rfl

/-- The secrets are the flat part of the environment. -/
theorem areFlatPart_secrets (h : environment.Holds writes) (appDns appDomain : String)
    (version : UInt64) :
    AreFlatPart environment (derive environment appDns appDomain version).secrets where
  get?_eq := get?_secrets h appDns appDomain version
  contains_iff key := by
    rw [CaseMap.contains_eq_isSome_get?, get?_secrets h, Option.isSome_iff_exists]
    simp only [Option.filter_eq_some_iff, Bool.not_eq_true']
  listed order hperm := by
    rw [toList_secrets h] at hperm
    constructor
    · refine (hperm.map _).nodup_iff.mpr ?_
      exact h.nodup_keyForm_toList.sublist (List.filter_sublist.map _)
    · intro key value
      rw [hperm.mem_iff, List.mem_filter, Bool.not_eq_true']
  size_eq := by
    rw [CaseMap.size, ← Std.ExtTreeMap.length_toList, ← List.length_map Prod.snd, ← CaseMap.toList,
      toList_secrets h, List.countP_eq_length_filter]

/-- In every environment that operations leave, the secrets are the flat part of the environment: a
key has a secret, in every spelling, exactly if it has a value there that is not an object, and this
value is the secret; each such entry is kept once, in its own spelling, and no object is. The order
in which the environment lists its entries does not matter. -/
theorem secrets_are_flat_part (operations : List (CaseMap.Operation Json))
    (appDns appDomain : String) (version : UInt64) :
    let environment := CaseMap.empty.performAll operations
    let secrets := (derive environment appDns appDomain version).secrets
    AreFlatPart environment secrets ∧ (∀ other, MayKeep environment other ↔ other = secrets) ∧
      ∀ key value, secrets.get? key = some value → value.isObject = false := by
  intro environment secrets
  have hholds := CaseMap.holds_performAll operations
  have hflat : AreFlatPart environment secrets :=
    areFlatPart_secrets hholds appDns appDomain version
  have hkept : MayKeep environment secrets := mayKeep_derive environment appDns appDomain version
  refine ⟨hflat, fun other => ⟨fun hother => hother.eq hholds hkept, ?_⟩, ?_⟩
  · rintro rfl
    exact hkept
  · intro key value hvalue
    rw [hflat.get?_eq, Option.filter_eq_some_iff] at hvalue
    simpa using hvalue.2

/-- An entry that was put in again under another spelling is a secret in its last one. -/
example :
    let environment := CaseMap.empty.performAll
      [.insert "Token" (.int 1), .insert "Database" (.obj []), .insert "TOKEN" (.int 2)]
    (derive environment "a.app" "example.org" 1).secrets.toList = [("TOKEN", .int 2)] := by
  decide +kernel

end StoryEngine.AppContext

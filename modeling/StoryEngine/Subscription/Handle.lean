import StoryEngine.Subscription.Registry

/-!
# Handles on registries

A program reaches its registries through handles. A clone of a handle is another handle on the same
registry, and what is done through one of them shows through all.
-/

namespace StoryEngine

namespace Registry

/-- A call on a registry. -/
inductive Call where
  | add (id : String) (service : StreamingService) (event : String) (payload : Json)
    (now : Timestamp)
  | get (id : String)
  | remove (id : String)
  | snapshot
  | size
  | isEmpty
  | clear
  deriving DecidableEq, Repr

/-- An answer to a call. -/
inductive Answer where
  | done
  | found (subscription? : Option Subscription)
  | removed (subscription : Subscription)
  | failed (error : EngineError)
  | listed (subscriptions : List Subscription)
  | count (number : Nat)
  | flag (holds : Bool)
  deriving DecidableEq, Repr

/-- Carries a call out: the answer, and the registry that is left. -/
def perform (registry : Registry) : Call → Answer × Registry
  | .add id service event payload now => (.done, registry.add id service event payload now)
  | .get id => (.found (registry.get? id), registry)
  | .remove id =>
    match registry.remove id with
    | .ok (subscription, left) => (.removed subscription, left)
    | .error error => (.failed error, registry)
  | .snapshot => (.listed registry.snapshot, registry)
  | .size => (.count registry.size, registry)
  | .isEmpty => (.flag registry.isEmpty, registry)
  | .clear => (.done, registry.clear)

end Registry

/-- The registries of a program, and for each handle the place of its registry. -/
structure Registries where
  registries : List Registry := []
  handles : List Nat := []
  valid : ∀ place ∈ handles, place < registries.length := by exact List.forall_mem_nil _

namespace Registries

/-- A step of a program that has registries. -/
inductive Step where
  /-- Makes a registry and a handle on it. -/
  | create
  /-- Makes another handle on the registry of a handle. -/
  | clone (handle : Nat)
  /-- Makes a call through a handle. -/
  | call (handle : Nat) (call : Registry.Call)
  deriving DecidableEq, Repr

/-- A call that was made through a handle on the registry at a place, and its answer. -/
structure Exchange where
  handle : Nat
  place : Nat
  call : Registry.Call
  answer : Registry.Answer
  deriving DecidableEq, Repr

/-- Makes a registry and a handle on it. -/
def create (program : Registries) : Registries where
  registries := program.registries ++ [{}]
  handles := program.handles ++ [program.registries.length]
  valid place hplace := by
    rw [List.length_append, List.length_singleton]
    rcases List.mem_append.mp hplace with hplace | hplace
    · exact Nat.lt_succ_of_lt (program.valid place hplace)
    · rw [List.mem_singleton.mp hplace]
      exact Nat.lt_succ_self _

/-- Makes another handle on the registry of a handle. -/
def clone (program : Registries) (handle : Fin program.handles.length) : Registries where
  registries := program.registries
  handles := program.handles ++ [program.handles[handle]]
  valid place hplace := by
    rcases List.mem_append.mp hplace with hplace | hplace
    · exact program.valid place hplace
    · rw [List.mem_singleton.mp hplace]
      exact program.valid _ (List.getElem_mem _)

/-- The place of the registry of a handle. -/
def place (program : Registries) (handle : Fin program.handles.length) :
    Fin program.registries.length :=
  ⟨program.handles[handle], program.valid _ (List.getElem_mem _)⟩

/-- Puts a registry at a place in place of the one that is there. -/
def put (program : Registries) (place : Nat) (registry : Registry) : Registries where
  registries := program.registries.set place registry
  handles := program.handles
  valid other hother := by
    rw [List.length_set]
    exact program.valid other hother

/-- Makes a call through a handle. -/
def call (program : Registries) (handle : Fin program.handles.length) (call : Registry.Call) :
    Registries × Exchange :=
  let place := program.place handle
  let (answer, left) := program.registries[place].perform call
  (program.put place left, { handle, place, call, answer })

/-- Carries a step out. There is nothing to do through a handle that there is not. -/
def step (program : Registries) : Step → Registries × Option Exchange
  | .create => (program.create, none)
  | .clone handle =>
    if h : handle < program.handles.length then (program.clone ⟨handle, h⟩, none)
    else (program, none)
  | .call handle call =>
    if h : handle < program.handles.length then
      let (program, exchange) := program.call ⟨handle, h⟩ call
      (program, some exchange)
    else
      (program, none)

/-- Carries steps out one after another: what is left, and the calls that were made. -/
def run (program : Registries) : List Step → Registries × List Exchange
  | [] => (program, [])
  | first :: rest =>
    let (program, exchange?) := program.step first
    let (program, exchanges) := program.run rest
    (program, exchange?.toList ++ exchanges)

end Registries

end StoryEngine

import StoryEngine.App.Definition
import StoryEngine.App.Teardown
import StoryEngine.Bootstrap.Launch
import StoryEngine.Bootstrap.Stories

/-!
# Applications

One deployed release: its stories, its state and its settings. An application is made from a sound
definition only. What changes while it lives, the registry of its subscriptions and the states of
those that it works with, is kept apart in `Live`.
-/

namespace StoryEngine

/-- A deployed release. -/
structure App where
  state : AppState
  stories : Table StoryDefinition
  /-- The stories that run at the start, in order. -/
  entrypoints : List String
  config : AppConfig
  deriving DecidableEq

/-- Those that an application works with. -/
structure AppRuntime (σ κ η : Type) where
  dispatcher : Dispatcher σ
  containers : ContainerRuntime κ
  http : Http.Client η

/-- What changes while an application lives. -/
structure Live (σ κ η : Type) where
  registry : Registry
  dispatcher : σ
  containers : κ
  http : η

namespace Live

variable {σ κ η α : Type}

/-- Works on the containers. -/
def onContainers (run : Run κ α) : Run (Live σ κ η) α :=
  run.through (·.containers) fun live containers => { live with containers := containers }

/-- Works on what dispatchers share. -/
def onShared (run : Run (Shared σ) α) : Run (Live σ κ η) α :=
  run.through (fun live => ⟨live.registry, live.dispatcher⟩) fun live shared =>
    { live with registry := shared.registry, dispatcher := shared.client }

/-- Works on the HTTP client. -/
def onHttp (act : Act Event η α) : Act Event (Live σ κ η) α :=
  act.through (·.http) fun live http => { live with http := http }

/-- Works on the registry. -/
def onRegistry (act : Act Event Registry α) : Act Event (Live σ κ η) α :=
  act.through (·.registry) fun live registry => { live with registry := registry }

@[simp] theorem carryOut_onContainers (run : Run κ α) (live : Live σ κ η) :
    (onContainers run).carryOut live =
      ⟨(run.carryOut live.containers).value,
        { live with containers := (run.carryOut live.containers).state },
        (run.carryOut live.containers).trace⟩ := rfl

@[simp] theorem carryOut_onShared (run : Run (Shared σ) α) (live : Live σ κ η) :
    (onShared run).carryOut live =
      let left := run.carryOut ⟨live.registry, live.dispatcher⟩
      ⟨left.value, { live with registry := left.state.registry, dispatcher := left.state.client },
        left.trace⟩ := rfl

@[simp] theorem run_onHttp (act : Act Event η α) (live : Live σ κ η) :
    (onHttp act).run live =
      ⟨(act.run live.http).value, { live with http := (act.run live.http).state },
        (act.run live.http).trace⟩ := rfl

@[simp] theorem run_onRegistry (act : Act Event Registry α) (live : Live σ κ η) :
    (onRegistry act).run live =
      ⟨(act.run live.registry).value, { live with registry := (act.run live.registry).state },
        (act.run live.registry).trace⟩ := rfl

end Live

namespace App

variable {σ κ η : Type}

/-- Makes an application from a definition, which must be sound. -/
def create (definition : AppDefinition) (config : AppConfig) : Except EngineError App := do
  definition.validate
  pure {
    state := .create definition.appId definition.appDns definition.version definition.ownerUuid
      definition.environment definition.catalog config.appDomain
    stories := definition.stories.stories
    entrypoints := definition.stories.entrypoint
    config := config }

/-- Names of the stories, in order. -/
def storyNames (app : App) : List String :=
  app.stories.keys

/-- The story with a name. -/
def story (app : App) (name : String) : Except EngineError Story :=
  match app.stories[name]? with
  | some definition => .ok { name := name, definition := definition, app := app.state }
  | none => .error (.storyNotFound name)

/-- Number of lines of all stories. No walk of a sound story dispatches more. -/
def lineCount (app : App) : Nat :=
  app.stories.toList.foldl (fun count entry => count + entry.2.tree.size) 0

/-- Starts the containers that any story needs. -/
def startServices (app : App) (runtime : AppRuntime σ κ η) : Run (Live σ κ η) Unit := do
  let stories ← Run.ofExcept (app.storyNames.mapM app.story)
  Live.onContainers (Bootstrap.startServices runtime.containers stories)

/-- Runs the entrypoint stories. -/
def runStories (app : App) (runtime : AppRuntime σ κ η) : Run (Live σ κ η) Unit := do
  let stories ← Run.ofExcept (app.entrypoints.mapM app.story)
  Live.onShared (Bootstrap.runStories app.lineCount runtime.dispatcher stories)

/-- Starts the containers, then runs the entrypoint stories. -/
def bootstrap (app : App) (runtime : AppRuntime σ κ η) : Run (Live σ κ η) Unit := do
  app.startServices runtime
  app.runStories runtime

/-- Registers a subscription, in place of any with the same id. -/
def addSubscription (id : String) (service : StreamingService) (event : String) (payload : Json)
    (now : Timestamp) : Act Event (Live σ κ η) Unit :=
  Live.onRegistry (Act.modify fun registry => registry.add id service event payload now)

/-- The subscription with an id. -/
def getSubscription (id : String) : Act Event (Live σ κ η) (Option Subscription) :=
  Live.onRegistry (return (← Act.get).get? id)

/-- Removes a subscription, which must be registered. -/
def removeSubscription (id : String) : Act Event (Live σ κ η) (Except EngineError Subscription) :=
  Live.onRegistry do
    match (← Act.get).remove id with
    | .ok (subscription, registry) =>
      Act.modify fun _ => registry
      pure (.ok subscription)
    | .error error => pure (.error error)

/-- Asks the broker to drop every subscription of the application. -/
def clearWithBroker (app : App) (runtime : AppRuntime σ κ η) : Act Event (Live σ κ η) Bool :=
  Live.onHttp (Teardown.clearAll runtime.http app.config app.state.appId)

/-- Ends every registered subscription; they stay registered. -/
def unsubscribeAll (app : App) (runtime : AppRuntime σ κ η) :
    Act Event (Live σ κ η) UnsubscribeReport := do
  let registry ← Live.onRegistry Act.get
  Live.onHttp <|
    Teardown.unsubscribeAll runtime.http app.config app.state.catalog registry.snapshot

/-- Tears the application down: clears with the broker, ends every subscription whatever the broker
said, and empties the registry. -/
def destroy (app : App) (runtime : AppRuntime σ κ η) : Act Event (Live σ κ η) TeardownReport := do
  let clearedAll ← app.clearWithBroker runtime
  let unsubscribe ← app.unsubscribeAll runtime
  Live.onRegistry (Act.modify Registry.clear)
  pure { clearedAll, unsubscribe }

end App

end StoryEngine

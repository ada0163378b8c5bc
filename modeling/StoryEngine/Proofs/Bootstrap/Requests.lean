import StoryEngine.Bootstrap.Containers
import StoryEngine.Proofs.Bootstrap.Launch
import StoryEngine.Proofs.Bootstrap.Plan
import StoryEngine.Proofs.Story.Course

/-!
# Which lines are started

Every `execute` line on the walk of a story requests a container. When all of them resolve, exactly
these requests are started: those whose command is not internal and that share no container with an
earlier request. The services that the plan has taken care of are those of the shared requests
before a line, over all stories.
-/

namespace StoryEngine.Bootstrap

variable {κ : Type}

/-- A line of a story that requests a container. -/
abbrev Request := Story × Line

/-- The lines on the walks of some stories, in order. -/
def walkedLines (stories : List Story) : List Request :=
  stories.flatMap fun story => story.definition.nextWalk.lines.map fun line => (story, line)

/-- The `execute` lines on the walks of some stories, in order. -/
def requests (stories : List Story) : List Request :=
  (walkedLines stories).filter fun request => request.2.method = .execute

namespace Request

/-- The start that a request leads to. -/
def call (request : Request) : StartCall :=
  .ofLine request.1 request.2

/-- The launch for a request. -/
def launch (request : Request) : Launch where
  story := request.1
  line := request.2
  chain := ⟨request.2.service.getD "", request.2.command.getD ""⟩

/-- The engine carries out the command of the request itself. -/
def isInternal (request : Request) : Bool :=
  request.1.app.catalog.isInternal (request.2.service.getD "") (request.2.command.getD "")

/-- The request names the service, and its container can be shared. -/
def shares (isReusable : Story → Line → Bool) (service : Option String) (request : Request) :
    Bool :=
  isReusable request.1 request.2 && request.2.service = service

end Request

variable {isReusable : Story → Line → Bool} {earlier : List Request}

/-- The requests before a line take care of the services that are seen. -/
def Remembers (isReusable : Story → Line → Bool) (earlier : List Request) (seen : List String) :
    Prop :=
  ∀ service, service ∈ seen ↔ earlier.any (Request.shares isReusable (some service)) = true

/-- A shared request takes care of its service, and any other of none. -/
theorem Remembers.append {seen : List String} (h : Remembers isReusable earlier seen)
    {request : Request} {service : String} (hservice : request.2.service = some service) :
    Remembers isReusable (earlier ++ [request])
      (if isReusable request.1 request.2 then service :: seen else seen) := by
  intro other
  have hlast : [request].any (Request.shares isReusable (some other)) =
      (isReusable request.1 request.2 && service = other) := by
    simp [Request.shares, hservice]
  rw [List.any_append, Bool.or_eq_true, ← h other, hlast]
  cases isReusable request.1 request.2 with
  | false => simp
  | true => simp [or_comm, eq_comm]

end StoryEngine.Bootstrap

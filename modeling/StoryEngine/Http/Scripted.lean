import StoryEngine.Http.Client

/-!
# Scripted replies

An HTTP endpoint that answers each URL from a list of replies, and with an empty success once the
list is used up. It serves as a transport and as a client.
-/

namespace StoryEngine.Http

/-- The replies still to be given, by URL. -/
abbrev Replies := Table (List Reply)

namespace Replies

/-- The reply of an endpoint that has no other. -/
def success : Reply :=
  .ok { status := 200, body := "" }

/-- Takes the next reply for a URL. -/
def take (replies : Replies) (url : String) : Reply × Replies :=
  match replies[url]? with
  | some (reply :: rest) => (reply, replies.insert url rest)
  | some [] | none => (success, replies)

/-- The first of the replies to a URL is given. -/
theorem take_fst (replies : Replies) (url : String) :
    (replies.take url).1 = (replies[url]?.bind List.head?).getD success := by
  unfold take
  cases replies[url]? with
  | none => rfl
  | some queue => cases queue <;> rfl

/-- The reply that is given is used up, and the replies to other URLs are as before. -/
theorem getElem?_take (replies : Replies) (url other : String) :
    (replies.take url).2[other]? =
      if url = other then replies[other]?.map List.tail else replies[other]? := by
  have hunchanged (hqueue : replies[url]?.map List.tail = replies[url]?) :
      replies[other]? = if url = other then replies[other]?.map List.tail else replies[other]? := by
    split
    · subst other
      exact hqueue.symm
    · rfl
  unfold take
  cases hqueue : replies[url]? with
  | none => exact hunchanged (by rw [hqueue]; rfl)
  | some queue =>
    cases queue with
    | nil => exact hunchanged (by rw [hqueue]; rfl)
    | cons reply rest =>
      simp only [Std.ExtTreeMap.getElem?_insert, Std.LawfulEqCmp.compare_eq_iff_eq]
      split
      · subst other
        rw [hqueue]
        rfl
      · rfl

/-- The transport that answers from the replies. -/
def transport : Transport Replies := fun request replies =>
  replies.take request.url

/-- The client that answers from the replies, whatever the budget. -/
def client : Client Replies := fun _ request =>
  Act.silent (transport request)

end Replies

end StoryEngine.Http

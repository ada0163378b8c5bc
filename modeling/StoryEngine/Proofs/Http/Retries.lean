import StoryEngine.Http.Client

/-!
# Retries within a budget

What a retrying client does with a request, read off the replies of its transport. One send decides:
the first one that the transport does not fail, or else the last one of the budget. Each send before
it is followed by a warning and a wait, and the reply to the deciding one is the answer.
-/

namespace StoryEngine

/-- The number in a field of a record, if the field holds one. -/
def LogRecord.number? (record : LogRecord) (field : String) : Option Nat :=
  match record.fields.lookup field with
  | some (.number value) => some value
  | _ => none

/-- Records of one level are those of this level among them. -/
theorem filter_level_eq_self {records : List LogRecord} {level : LogLevel}
    (hlevel : ∀ record ∈ records, record.level = level) :
    records.filter (·.level = level) = records :=
  List.filter_eq_self.mpr fun record hrecord => decide_eq_true (hlevel record hrecord)

/-- Records of one level have none of another level among them. -/
theorem filter_level_eq_nil {records : List LogRecord} {level other : LogLevel}
    (hlevel : ∀ record ∈ records, record.level = level) (hne : level ≠ other) :
    records.filter (·.level = other) = [] := by
  rw [List.filter_eq_nil_iff]
  intro record hrecord
  simpa only [hlevel record hrecord, decide_eq_true_eq] using hne

namespace Http

variable {τ : Type}

/-- What went wrong if the transport failed to send. -/
def transportFailure? : Reply → Option String
  | .error (.httpTransport detail) => some detail
  | _ => none

/-- A transport that failed to send said so in its reply. -/
theorem eq_of_transportFailure? {reply : Reply} {detail : String}
    (hfailed : transportFailure? reply = some detail) : reply = .error (.httpTransport detail) := by
  unfold transportFailure? at hfailed
  split at hfailed
  · cases hfailed
    rfl
  · cases hfailed

/-- The state of a transport after some sends of a request. -/
def stateAfter (transport : Transport τ) (request : Request) (s : τ) : Nat → τ
  | 0 => s
  | sends + 1 => (transport request (stateAfter transport request s sends)).2

/-- The reply to a send of a request; sends are counted from one. -/
def replyTo (transport : Transport τ) (request : Request) (s : τ) (number : Nat) : Reply :=
  (transport request (stateAfter transport request s (number - 1))).1

/-- The send that decides about a request: the first one that the transport does not fail, or the
last one that is allowed. -/
structure Decides (replies : Nat → Reply) (allowed number : Nat) : Prop where
  pos : 0 < number
  le : number ≤ allowed
  failed : ∀ earlier, 0 < earlier → earlier < number → transportFailure? (replies earlier) ≠ none
  last : transportFailure? (replies number) = none ∨ number = allowed

namespace Decides

variable {replies : Nat → Reply} {allowed number other : Nat}

/-- Of two sends that decide neither comes first. -/
theorem not_lt (h : Decides replies allowed number) (hother : Decides replies allowed other) :
    ¬ number < other := by
  intro hlt
  rcases h.last with hnone | hall
  · exact hother.failed number h.pos hlt hnone
  · have hle := hother.le
    omega

/-- No two sends decide. -/
theorem unique (h : Decides replies allowed number) (hother : Decides replies allowed other) :
    other = number := by
  have hge := h.not_lt hother
  have hle := hother.not_lt h
  omega

end Decides

/-- The warning about a send that failed and is followed by another one. -/
def retryWarning (policy : RetryPolicy) (request : Request) (budget : UInt32)
    (replies : Nat → Reply) (number : Nat) : LogRecord :=
  attemptFailed request (.ofNat number) budget (policy.delayFor (.ofNat number))
    ((transportFailure? (replies number)).getD "")

/-- The events of a send that failed and is followed by another one: the warning about it and the
wait after it. -/
def retryEvents (policy : RetryPolicy) (request : Request) (budget : UInt32)
    (replies : Nat → Reply) (number : Nat) : List Event :=
  [.sent request, .logged (retryWarning policy request budget replies number),
    .waited (policy.delayFor (.ofNat number))]

/-- The record of the last send that is allowed, if it failed. -/
def exhaustion? (request : Request) (attempts : UInt32) (reply : Reply) : Option LogRecord :=
  (transportFailure? reply).map (attemptsExhausted request attempts)

/-- The answer to a request, from the reply to the send that decides. -/
def answer (request : Request) (attempts : UInt32) (reply : Reply) : Reply :=
  match transportFailure? reply with
  | some detail => .error (exhausted request attempts detail)
  | none => reply

/-- What the attempts after some sends leave if a given send decides. -/
def settled (policy : RetryPolicy) (transport : Transport τ) (request : Request) (budget : UInt32)
    (s : τ) (made number : Nat) : Acted Event τ Reply where
  value := answer request (.ofNat number) (replyTo transport request s number)
  state := stateAfter transport request s number
  trace :=
    (List.range' (made + 1) (number - (made + 1))).flatMap
        (retryEvents policy request budget (replyTo transport request s)) ++
      .sent request ::
        ((exhaustion? request (.ofNat number) (replyTo transport request s number)).map
          .logged).toList

section

variable {policy : RetryPolicy} {transport : Transport τ} {request : Request} {budget : UInt32}
  {s : τ} {made left number : Nat}

/-- A send that the transport does not fail is the last one. -/
theorem attemptFrom_of_none
    (hnow : transportFailure? (replyTo transport request s (made + 1)) = none) :
    (attemptFrom policy transport request budget left (.ofNat (made + 1))).run
        (stateAfter transport request s made) =
      settled policy transport request budget s made (made + 1) := by
  have hanswer : answer request (.ofNat (made + 1)) (replyTo transport request s (made + 1)) =
      replyTo transport request s (made + 1) := by
    simp only [answer, hnow]
  simp only [settled, hanswer, exhaustion?, hnow]
  unfold attemptFrom
  simp only [sendOnce, Act.run_bind, Act.run_emit, Act.run_silent]
  split
  · rename_i detail hfailed
    have hreply : replyTo transport request s (made + 1) = .error (.httpTransport detail) := hfailed
    rw [hreply] at hnow
    cases hnow
  · simp [replyTo, stateAfter]

/-- A send that fails when no other one is left exhausts the budget. -/
theorem attemptFrom_zero {detail : String}
    (hnow : replyTo transport request s (made + 1) = .error (.httpTransport detail)) :
    (attemptFrom policy transport request budget 0 (.ofNat (made + 1))).run
        (stateAfter transport request s made) =
      settled policy transport request budget s made (made + 1) := by
  have hfailed : (transport request (stateAfter transport request s made)).1 =
      .error (.httpTransport detail) := hnow
  simp [attemptFrom, sendOnce, hfailed, settled, answer, exhaustion?, hnow, transportFailure?,
    stateAfter]

/-- After a send that fails when others are left, the attempts go on until one decides. -/
theorem attemptFrom_succ {detail : String}
    (hnow : replyTo transport request s (made + 1) = .error (.httpTransport detail))
    (hlater : made + 1 < number)
    (hrest : (attemptFrom policy transport request budget left (.ofNat (made + 2))).run
        (stateAfter transport request s (made + 1)) =
      settled policy transport request budget s (made + 1) number) :
    (attemptFrom policy transport request budget (left + 1) (.ofNat (made + 1))).run
        (stateAfter transport request s made) =
      settled policy transport request budget s made number := by
  have hfailed : (transport request (stateAfter transport request s made)).1 =
      .error (.httpTransport detail) := hnow
  have hnext : UInt32.ofNat (made + 1) + 1 = .ofNat (made + 2) :=
    (UInt32.ofNat_add (made + 1) 1).symm
  have hstate : (transport request (stateAfter transport request s made)).2 =
      stateAfter transport request s (made + 1) := rfl
  obtain ⟨more, rfl⟩ := Nat.exists_eq_add_of_lt hlater
  have hcount : made + 1 + more + 1 - (made + 1) = (made + 1 + more + 1 - (made + 1 + 1)) + 1 := by
    omega
  rw [attemptFrom]
  simp only [sendOnce, Act.run_bind, Act.run_emit, Act.run_silent, hfailed, hstate, hnext, hrest]
  simp only [settled]
  rw [hcount, List.range'_succ, List.flatMap_cons]
  simp [retryEvents, retryWarning, hnow, transportFailure?]

/-- After some sends that failed, the attempts go on until a send decides. -/
theorem exists_settled (policy : RetryPolicy) (transport : Transport τ) (request : Request)
    (budget : UInt32) (s : τ) (made left : Nat)
    (hfailed : ∀ earlier, 0 < earlier → earlier ≤ made →
      transportFailure? (replyTo transport request s earlier) ≠ none) :
    ∃ number, Decides (replyTo transport request s) (made + 1 + left) number ∧ made < number ∧
      (attemptFrom policy transport request budget left (.ofNat (made + 1))).run
          (stateAfter transport request s made) =
        settled policy transport request budget s made number := by
  induction left generalizing made with
  | zero =>
    refine ⟨made + 1, ⟨Nat.succ_pos made, Nat.le_refl _, ?_, Or.inr rfl⟩, Nat.lt_succ_self made, ?_⟩
    · intro earlier hpos hlt
      exact hfailed earlier hpos (Nat.le_of_lt_succ hlt)
    · cases hnow : transportFailure? (replyTo transport request s (made + 1)) with
      | none => exact attemptFrom_of_none hnow
      | some detail => exact attemptFrom_zero (eq_of_transportFailure? hnow)
  | succ left ih =>
    cases hnow : transportFailure? (replyTo transport request s (made + 1)) with
    | none =>
      refine ⟨made + 1, ⟨Nat.succ_pos made, by omega, ?_, Or.inl hnow⟩, Nat.lt_succ_self made,
        attemptFrom_of_none hnow⟩
      intro earlier hpos hlt
      exact hfailed earlier hpos (Nat.le_of_lt_succ hlt)
    | some detail =>
      have hmore : ∀ earlier, 0 < earlier → earlier ≤ made + 1 →
          transportFailure? (replyTo transport request s earlier) ≠ none := by
        intro earlier hpos hle
        rcases Nat.lt_or_eq_of_le hle with hlt | rfl
        · exact hfailed earlier hpos (Nat.le_of_lt_succ hlt)
        · rw [hnow]
          exact Option.some_ne_none detail
      obtain ⟨number, hdecides, hlater, hrest⟩ := ih (made + 1) hmore
      have hallowed : made + 1 + (left + 1) = made + 1 + 1 + left := by omega
      rw [hallowed]
      exact ⟨number, hdecides, by omega,
        attemptFrom_succ (eq_of_transportFailure? hnow) hlater hrest⟩

end

section

variable {policy : RetryPolicy} {request : Request} {budget : UInt32} {replies : Nat → Reply}

/-- What every failed send leaves once is left in the order of the sends. -/
theorem filterMap_retries {β : Type} {f : Event → Option β} {g : Nat → β}
    (hone : ∀ number, (retryEvents policy request budget replies number).filterMap f = [g number])
    (numbers : List Nat) :
    (numbers.flatMap (retryEvents policy request budget replies)).filterMap f = numbers.map g := by
  rw [List.filterMap_flatMap, List.map_eq_flatMap]
  simp only [hone]

/-- The records about failed sends that are followed by others are warnings. -/
theorem level_of_mem_warnings {numbers : List Nat} {record : LogRecord}
    (hrecord : record ∈ numbers.map (retryWarning policy request budget replies)) :
    record.level = .warn := by
  obtain ⟨number, -, rfl⟩ := List.mem_map.mp hrecord
  rfl

/-- The record that no attempt is left is an error. -/
theorem level_of_mem_exhaustion? {attempts : UInt32} {reply : Reply} {record : LogRecord}
    (hrecord : record ∈ (exhaustion? request attempts reply).toList) : record.level = .error := by
  obtain ⟨detail, -, rfl⟩ := Option.map_eq_some_iff.mp (Option.mem_toList.mp hrecord)
  rfl

end

/-- What a client leaves that has a number of attempts for a request, if a given send decides. -/
structure Answers (policy : RetryPolicy) (request : Request) (allowed : Nat)
    (replies : Nat → Reply) (number : Nat) (left : Acted Event τ Reply) : Prop where
  /-- The request is sent until a send decides, and it stays the same. -/
  sends : Event.sends left.trace = List.replicate number request
  /-- A response, whatever its status, and an error other than of the transport are handed on. -/
  handedOn : transportFailure? (replies number) = none → left.value = replies number
  /-- If the last send fails too, the answer says so and gives the reason of that send. -/
  exhausted : ∀ detail, replies number = .error (.httpTransport detail) →
    left.value = .error (.httpTransport
      s!"{request.method} {request.url} failed after {allowed} attempts: {detail}")
  /-- Every send but the last is followed by its warning and by the wait after it, and the last one
  by nothing but the record that no attempt is left. -/
  order : left.trace =
    (List.range' 1 (number - 1)).flatMap (retryEvents policy request (.ofNat allowed) replies) ++
      .sent request :: ((exhaustion? request (.ofNat allowed) (replies number)).map .logged).toList
  /-- The waits are the delays of the policy after every send but the last. -/
  waits : Event.waits left.trace =
    (List.range' 1 (number - 1)).map fun earlier => policy.delayFor (.ofNat earlier)
  /-- There is a warning for every send but the last, with its number. -/
  warnings : ((Event.logs left.trace).filter (·.level = .warn)).map (fun record =>
      (record.number? "attempt", record.number? "max_attempts", record.number? "delay_ms")) =
    (List.range' 1 (number - 1)).map fun earlier =>
      (some earlier, some allowed, some (policy.delayFor (.ofNat earlier)))
  /-- An error is logged if the last send fails too, and only then. -/
  errors : (Event.logs left.trace).filter (·.level = .error) =
    (exhaustion? request (.ofNat allowed) (replies number)).toList
  /-- The number of no send is too large for its word. -/
  counted : number < UInt32.size

section

variable {policy : RetryPolicy} {transport : Transport τ} {request : Request} {budget : UInt32}
  {s : τ} {allowed number : Nat}

/-- The record that no attempt is left counts all that were allowed. -/
theorem Decides.exhaustion?_eq {replies : Nat → Reply} (h : Decides replies allowed number) :
    exhaustion? request (.ofNat number) (replies number) =
      exhaustion? request (.ofNat allowed) (replies number) := by
  rcases h.last with hnone | rfl
  · simp only [exhaustion?, hnone, Option.map_none]
  · rfl

/-- The request is sent until a send decides. -/
theorem sends_settled (hpos : 0 < number) :
    Event.sends (settled policy transport request budget s 0 number).trace =
      List.replicate number request := by
  have hfailed : Event.sends ((List.range' 1 (number - 1)).flatMap
      (retryEvents policy request budget (replyTo transport request s))) =
        (List.range' 1 (number - 1)).map fun _ => request :=
    filterMap_retries (fun _ => rfl) _
  have hlast (record? : Option LogRecord) :
      Event.sends (.sent request :: (record?.map .logged).toList) = [request] := by
    cases record? <;> rfl
  simp only [settled, Event.sends_append, hlast]
  rw [hfailed, List.map_const', List.length_range', ← List.replicate_succ',
    Nat.sub_add_cancel hpos]

/-- A client waits after every send but the one that decides. -/
theorem waits_settled :
    Event.waits (settled policy transport request budget s 0 number).trace =
      (List.range' 1 (number - 1)).map fun earlier => policy.delayFor (.ofNat earlier) := by
  have hlast (record? : Option LogRecord) :
      Event.waits (.sent request :: (record?.map .logged).toList) = [] := by
    cases record? <;> rfl
  simp only [settled, Event.waits_append, hlast, List.append_nil]
  exact filterMap_retries (fun _ => rfl) _

/-- The log of some attempts has a warning for each of them but the last. -/
theorem logs_settled :
    Event.logs (settled policy transport request budget s 0 number).trace =
      (List.range' 1 (number - 1)).map
          (retryWarning policy request budget (replyTo transport request s)) ++
        (exhaustion? request (.ofNat number) (replyTo transport request s number)).toList := by
  have hlast (record? : Option LogRecord) :
      Event.logs (.sent request :: (record?.map .logged).toList) = record?.toList := by
    cases record? <;> rfl
  simp only [settled, Event.logs_append, hlast]
  congr 1
  exact filterMap_retries (fun _ => rfl) _

/-- A warning has the number of its send, as long as that fits into its word. -/
theorem number?_retryWarning {replies : Nat → Reply} (hnumber : number < UInt32.size)
    (hallowed : allowed < UInt32.size) :
    let record := retryWarning policy request (.ofNat allowed) replies number
    (record.number? "attempt", record.number? "max_attempts", record.number? "delay_ms") =
      (some number, some allowed, some (policy.delayFor (.ofNat number))) := by
  have hfits {n : Nat} (hn : n < UInt32.size) : (UInt32.ofNat n).toNat = n :=
    UInt32.toNat_ofNat_of_lt' hn
  simp [LogRecord.number?, retryWarning, attemptFailed, List.lookup_cons, hfits hnumber,
    hfits hallowed]

/-- The attempts until a given send decides are as a client makes them. -/
theorem answers_settled (hdecides : Decides (replyTo transport request s) allowed number)
    (hallowed : allowed < UInt32.size) :
    Answers policy request allowed (replyTo transport request s) number
      (settled policy transport request (.ofNat allowed) s 0 number) := by
  have hle := hdecides.le
  constructor
  case sends => exact sends_settled hdecides.pos
  case handedOn =>
    intro hnone
    simp only [settled, answer, hnone]
  case exhausted =>
    intro detail hreply
    have hfailed : transportFailure? (replyTo transport request s number) = some detail := by
      rw [hreply]
      rfl
    obtain rfl : number = allowed := hdecides.last.resolve_left (by simp [hfailed])
    have hfits : (UInt32.ofNat number).toNat = number := UInt32.toNat_ofNat_of_lt' hallowed
    simp only [settled, answer, hfailed, Http.exhausted, hfits, Request.display]
    rfl
  case order =>
    rw [← hdecides.exhaustion?_eq]
    rfl
  case waits => exact waits_settled
  case warnings =>
    rw [logs_settled, List.filter_append, filter_level_eq_self fun _ => level_of_mem_warnings,
      filter_level_eq_nil (fun _ => level_of_mem_exhaustion?) (by decide), List.append_nil,
      List.map_map]
    refine List.map_congr_left fun earlier hearlier => number?_retryWarning ?_ hallowed
    have hrange := List.mem_range'_1.mp hearlier
    omega
  case errors =>
    rw [logs_settled, List.filter_append, filter_level_eq_self fun _ => level_of_mem_exhaustion?,
      filter_level_eq_nil (fun _ => level_of_mem_warnings) (by decide), List.nil_append,
      hdecides.exhaustion?_eq]
  case counted => omega

end

/-- A budget allows as many attempts as it says, and one where it says none. -/
theorem allowedAttempts_eq (budget : UInt32) :
    allowedAttempts budget = .ofNat (max 1 budget.toNat) := by
  have hone : budget ≤ 1 ↔ budget.toNat ≤ 1 := UInt32.le_iff_toNat_le
  show (if budget ≤ 1 then 1 else budget) = _
  split
  · rename_i hle
    rw [Nat.max_eq_left (hone.mp hle)]
    rfl
  · rename_i hlt
    have hmore : 1 ≤ budget.toNat := Nat.le_of_not_le (mt hone.mpr hlt)
    rw [Nat.max_eq_right hmore, UInt32.ofNat_toNat]

/-- As many attempts are allowed as a word can count. -/
theorem allowed_lt_size (budget : UInt32) : max 1 budget.toNat < UInt32.size := by
  have hbudget : budget.toNat < UInt32.size := budget.toNat_lt
  have hone : 1 < UInt32.size := by decide
  omega

/-- A client that retries sends a request until one send decides. -/
theorem retrying_run (policy : RetryPolicy) (transport : Transport τ) (budget : UInt32)
    (request : Request) (s : τ) :
    ∃ number, Decides (replyTo transport request s) (max 1 budget.toNat) number ∧
      (retrying policy transport budget request).run s =
        settled policy transport request (.ofNat (max 1 budget.toNat)) s 0 number := by
  have hallowed : (allowedAttempts budget).toNat = max 1 budget.toNat := by
    rw [allowedAttempts_eq, UInt32.toNat_ofNat_of_lt' (allowed_lt_size budget)]
  obtain ⟨number, hdecides, -, hrun⟩ := exists_settled policy transport request
    (allowedAttempts budget) s 0 ((allowedAttempts budget).toNat - 1)
    fun earlier hpos hle => by omega
  have hcount : 0 + 1 + ((allowedAttempts budget).toNat - 1) = max 1 budget.toNat := by omega
  rw [hcount] at hdecides
  refine ⟨number, hdecides, ?_⟩
  rw [← allowedAttempts_eq, ← hrun]
  rfl

/-- Whatever the transport replies, exactly one send decides, and the client makes its attempts
until then. -/
theorem retrying_answers (policy : RetryPolicy) (transport : Transport τ) (budget : UInt32)
    (request : Request) (s : τ) :
    let replies := replyTo transport request s
    let allowed := max 1 budget.toNat
    ∃ number, Decides replies allowed number ∧
      (∀ other, Decides replies allowed other → other = number) ∧
      Answers policy request allowed replies number
        ((retrying policy transport budget request).run s) := by
  obtain ⟨number, hdecides, hrun⟩ := retrying_run policy transport budget request s
  refine ⟨number, hdecides, fun other hother => hdecides.unique hother, ?_⟩
  rw [hrun]
  exact answers_settled hdecides (allowed_lt_size budget)

/-- A transport that fails as often as its state says and then has a response. -/
def flaky : Transport Nat := fun _ failures =>
  match failures with
  | 0 => (.ok { status := 200, body := "" }, 0)
  | failures + 1 => (.error (.httpTransport "connection reset"), failures)

end Http

end StoryEngine

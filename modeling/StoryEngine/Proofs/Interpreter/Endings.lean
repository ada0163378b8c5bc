import StoryEngine.Proofs.Interpreter.Failures

/-!
# How walks end

A walk hands lines to its dispatcher, one after another. A line that produces data leads on to its
successor; a return, a break or a failure is the last that the walk hands on. What can be seen of a
walk is what the dispatcher leaves for the lines that were handed to it, in order, and a warning
about a break that no loop took up.
-/

namespace StoryEngine

variable {σ : Type}

/-- The records of errors. -/
def Trace.errors (trace : Trace) : List LogRecord :=
  (logs trace).filter (·.level = .error)

@[simp] theorem Trace.errors_append (a b : Trace) : errors (a ++ b) = errors a ++ errors b := by
  rw [errors, logs_append, List.filter_append]
  rfl

/-- A line that was handed to a dispatcher: the state before it, and what the dispatcher leaves. -/
structure Handed (σ : Type) where
  line : Line
  before : RunState σ
  left : Acted Event (RunState σ) (Except Stop Outcome)

/-- What can be seen of a line of a story that was handed to a dispatcher. -/
def Handed.trace (story : Story) (handed : Handed σ) : Trace :=
  .dispatched story.name handed.line.ln :: handed.left.trace

/-- What a walk leaves if what it hands on leaves something and the rest of the walk follows. -/
def Handed.followedBy {α : Type} (story : Story) (handed : Handed σ)
    (rest : Acted Event (RunState σ) α) : Acted Event (RunState σ) α :=
  ⟨rest.value, rest.state, handed.trace story ++ rest.trace⟩

/-- The course of a walk from a pointer and a state, with fuel for some lines: what it hands on, and
what it leaves. There is one way for a walk to go on, and six for it to end. -/
inductive Walked (dispatcher : Dispatcher σ) (story : Story) :
    Nat → Option String → RunState σ → List (Handed σ) →
      Acted Event (RunState σ) (Except Stop (Option Json)) → Prop
  /-- There is no line to go to. -/
  | ended {fuel : Nat} {s : RunState σ} : Walked dispatcher story fuel none s [] ⟨.ok none, s, []⟩
  /-- The pointer names no line. -/
  | lost {fuel : Nat} {id : String} {s : RunState σ} {error : EngineError}
      (hline : story.line id = .error error) :
      Walked dispatcher story (fuel + 1) (some id) s [] ⟨.error (.failed error), s, []⟩
  /-- The fuel is used up. -/
  | spent {id : String} {s : RunState σ} :
      Walked dispatcher story 0 (some id) s [] ⟨.error .outOfFuel, s, []⟩
  /-- The line returns. -/
  | returned {fuel : Nat} {id : String} {handed : Handed σ} {value : Option Json}
      (hline : story.line id = .ok handed.line)
      (hran : (dispatcher story handed.line).carryOut handed.before = handed.left)
      (hvalue : handed.left.value = .ok (.returned value)) :
      Walked dispatcher story (fuel + 1) (some id) handed.before [handed]
        (handed.followedBy story ⟨.ok value, handed.left.state, []⟩)
  /-- The line breaks, with no loop around it. -/
  | stray {fuel : Nat} {id : String} {handed : Handed σ}
      (hline : story.line id = .ok handed.line)
      (hran : (dispatcher story handed.line).carryOut handed.before = handed.left)
      (hvalue : handed.left.value = .ok .breakOut) :
      Walked dispatcher story (fuel + 1) (some id) handed.before [handed]
        (handed.followedBy story
          ⟨.ok none, handed.left.state, [.logged (Interpreter.strayBreak handed.line)]⟩)
  /-- The line stops. -/
  | stopped {fuel : Nat} {id : String} {handed : Handed σ} {stop : Stop}
      (hline : story.line id = .ok handed.line)
      (hran : (dispatcher story handed.line).carryOut handed.before = handed.left)
      (hvalue : handed.left.value = .error stop) :
      Walked dispatcher story (fuel + 1) (some id) handed.before [handed]
        (handed.followedBy story ⟨.error stop, handed.left.state, []⟩)
  /-- The line produces data or nothing, and the walk goes on with its successor. -/
  | goesOn {fuel : Nat} {id : String} {handed : Handed σ} {data : Option Json}
      {later : List (Handed σ)} {left : Acted Event (RunState σ) (Except Stop (Option Json))}
      (hline : story.line id = .ok handed.line)
      (hran : (dispatcher story handed.line).carryOut handed.before = handed.left)
      (hvalue : handed.left.value = .ok (.data data))
      (hlater : Walked dispatcher story fuel handed.line.successor handed.left.state later left) :
      Walked dispatcher story (fuel + 1) (some id) handed.before (handed :: later)
        (handed.followedBy story left)

namespace Interpreter

/-- A line that is handed on and stops takes what would follow with it. -/
theorem carryOut_dispatch_bind {α : Type} (dispatcher : Dispatcher σ) (story : Story)
    (handed : Handed σ) (hran : (dispatcher story handed.line).carryOut handed.before = handed.left)
    (next : Outcome → Run (RunState σ) α) :
    (dispatch dispatcher story handed.line >>= next).carryOut handed.before =
      handed.followedBy story (match handed.left.value with
        | .ok outcome => (next outcome).carryOut handed.left.state
        | .error stop => ⟨.error stop, handed.left.state, []⟩) := by
  rw [Run.carryOut_bind, dispatch, Run.carryOut_bind, Run.carryOut_emit]
  simp only [hran]
  cases hvalue : handed.left.value with
  | ok outcome => rfl
  | error stop => simp [Handed.followedBy, Handed.trace]

/-- A walk goes some course. -/
theorem exists_walked (dispatcher : Dispatcher σ) (story : Story) (fuel : Nat)
    (pointer : Option String) (s : RunState σ) :
    ∃ handed, Walked dispatcher story fuel pointer s handed
      ((walk dispatcher story fuel pointer).carryOut s) := by
  induction fuel generalizing pointer s with
  | zero =>
    cases pointer with
    | none =>
      rw [walk_none]
      exact ⟨[], .ended⟩
    | some id => exact ⟨[], .spent⟩
  | succ fuel ih =>
    cases pointer with
    | none =>
      rw [walk_none]
      exact ⟨[], .ended⟩
    | some id =>
      cases hline : story.line id with
      | error error =>
        rw [walk_of_error hline]
        exact ⟨[], .lost hline⟩
      | ok line =>
        let handed : Handed σ := ⟨line, s, (dispatcher story line).carryOut s⟩
        have hfirst := carryOut_dispatch_bind (α := Option Json) dispatcher story handed rfl
        rw [walk_of_line hline]
        cases hvalue : handed.left.value with
        | error stop =>
          rw [hfirst, hvalue]
          exact ⟨[handed], .stopped hline rfl hvalue⟩
        | ok outcome =>
          rw [hfirst, hvalue]
          cases outcome with
          | returned value => exact ⟨[handed], .returned hline rfl hvalue⟩
          | breakOut => exact ⟨[handed], .stray hline rfl hvalue⟩
          | data data =>
            obtain ⟨later, hlater⟩ := ih line.successor handed.left.state
            exact ⟨handed :: later, .goesOn hline rfl hvalue hlater⟩

end Interpreter

namespace Walked

variable {dispatcher : Dispatcher σ} {story : Story} {fuel : Nat} {pointer : Option String}
  {s : RunState σ} {handed : List (Handed σ)}
  {left : Acted Event (RunState σ) (Except Stop (Option Json))}

/-- No walk goes two courses: what a course leaves is what the walk leaves. -/
theorem carryOut_eq (h : Walked dispatcher story fuel pointer s handed left) :
    (Interpreter.walk dispatcher story fuel pointer).carryOut s = left := by
  induction h with
  | ended => rw [Interpreter.walk_none, Run.carryOut_pure]
  | lost hline =>
    rw [Interpreter.walk, hline]
    rfl
  | spent => rfl
  | stopped hline hran hvalue =>
    rw [Interpreter.walk_of_line hline, Interpreter.carryOut_dispatch_bind _ _ _ hran, hvalue]
  | returned hline hran hvalue | stray hline hran hvalue =>
    rw [Interpreter.walk_of_line hline, Interpreter.carryOut_dispatch_bind _ _ _ hran, hvalue]
    rfl
  | goesOn hline hran hvalue _ ih =>
    rw [Interpreter.walk_of_line hline, Interpreter.carryOut_dispatch_bind _ _ _ hran, hvalue]
    exact congrArg _ ih

/-- A walk that did not use its fuel up goes the same course with more fuel. -/
theorem more_fuel (h : Walked dispatcher story fuel pointer s handed left)
    (henough : left.value ≠ .error .outOfFuel) (more : Nat) :
    Walked dispatcher story (fuel + more) pointer s handed left := by
  induction h with
  | ended => exact .ended
  | spent => exact absurd rfl henough
  | lost hline =>
    rw [Nat.succ_add]
    exact .lost hline
  | returned hline hran hvalue =>
    rw [Nat.succ_add]
    exact .returned hline hran hvalue
  | stray hline hran hvalue =>
    rw [Nat.succ_add]
    exact .stray hline hran hvalue
  | stopped hline hran hvalue =>
    rw [Nat.succ_add]
    exact .stopped hline hran hvalue
  | goesOn hline hran hvalue _ ih =>
    rw [Nat.succ_add]
    exact .goesOn hline hran hvalue (ih henough)

/-- What is read off the events of a walk, and not off the warning about a break, is read off what
was handed on. -/
theorem read_eq {β : Type} {read : Trace → List β}
    (happend : ∀ a b, read (a ++ b) = read a ++ read b)
    (hwarning : ∀ line, read [.logged (Interpreter.strayBreak line)] = [])
    (h : Walked dispatcher story fuel pointer s handed left) :
    read left.trace = handed.flatMap fun one => read (one.trace story) := by
  have hnil : read [] = [] := List.self_eq_append_right.mp (happend [] [])
  induction h with
  | ended | lost | spent => exact hnil
  | returned | stopped => rw [Handed.followedBy, happend, hnil, List.flatMap_singleton, List.append_nil]
  | stray => rw [Handed.followedBy, happend, hwarning, List.flatMap_singleton, List.append_nil]
  | goesOn _ _ _ _ ih => rw [Handed.followedBy, happend, ih, List.flatMap_cons]

/-- The dispatches of a walk are those of the lines that were handed on. -/
theorem dispatches_eq (h : Walked dispatcher story fuel pointer s handed left) :
    Trace.dispatches left.trace = handed.flatMap fun one => Trace.dispatches (one.trace story) :=
  h.read_eq Trace.dispatches_append fun _ => rfl

/-- The errors of a walk are those that the dispatcher logged. -/
theorem errors_eq (h : Walked dispatcher story fuel pointer s handed left) :
    Trace.errors left.trace = handed.flatMap fun one => Trace.errors one.left.trace :=
  h.read_eq Trace.errors_append fun _ => rfl

/-- A walk begins with the line that its pointer names. -/
theorem exists_first (h : Walked dispatcher story (fuel + 1) pointer s handed left) {id : String}
    {line : Line} (hpointer : pointer = some id) (hline : story.line id = .ok line) :
    ∃ one later, handed = one :: later ∧ one.line = line ∧ one.before = s := by
  cases h with
  | ended => cases hpointer
  | lost hother =>
    cases hpointer
    rw [hline] at hother
    cases hother
  | @returned _ _ one _ hother | @stray _ _ one hother | @stopped _ _ one _ hother
  | @goesOn _ _ one _ _ _ hother =>
    cases hpointer
    exact ⟨one, _, rfl, Except.ok.inj (hother.symm.trans hline), rfl⟩

/-- The lines that a walk hands on are lines of the story. -/
theorem line_of_mem (h : Walked dispatcher story fuel pointer s handed left) {one : Handed σ}
    (hone : one ∈ handed) : ∃ id, story.line id = .ok one.line := by
  induction h with
  | ended | lost | spent => cases hone
  | @returned _ id _ _ hline | @stray _ id _ hline | @stopped _ id _ _ hline =>
    obtain rfl := List.mem_singleton.mp hone
    exact ⟨id, hline⟩
  | @goesOn _ id _ _ _ _ hline _ _ _ ih =>
    rcases List.mem_cons.mp hone with rfl | hone
    · exact ⟨id, hline⟩
    · exact ih hone

/-- A line that returns or breaks is the last one that is handed on, and the walk is over with the
value that it carries. -/
theorem of_sentinel (h : Walked dispatcher story fuel pointer s handed left) {one : Handed σ}
    (hone : one ∈ handed) {outcome : Outcome} (hvalue : one.left.value = .ok outcome)
    (hsentinel : outcome.isSentinel = true) :
    handed.getLast? = some one ∧ left.value = .ok outcome.value? := by
  induction h with
  | ended | lost | spent => cases hone
  | returned _ _ hreturned =>
    obtain rfl := List.mem_singleton.mp hone
    cases hreturned.symm.trans hvalue
    exact ⟨rfl, rfl⟩
  | stray _ _ hbreak =>
    obtain rfl := List.mem_singleton.mp hone
    cases hbreak.symm.trans hvalue
    exact ⟨rfl, rfl⟩
  | stopped _ _ hstop =>
    obtain rfl := List.mem_singleton.mp hone
    cases hstop.symm.trans hvalue
  | goesOn _ _ hdata _ ih =>
    rcases List.mem_cons.mp hone with rfl | hone
    · cases hdata.symm.trans hvalue
      cases hsentinel
    · obtain ⟨hlast, hleft⟩ := ih hone
      refine ⟨?_, hleft⟩
      rw [List.getLast?_cons, hlast, Option.getD_some]

/-- Where a walk stands after the lines that it has handed on. -/
def pointerAfter (pointer : Option String) (handed : List (Handed σ)) : Option String :=
  handed.getLast?.elim pointer fun one => one.line.successor

/-- One line more in front leaves a walk where its successor and the others lead. -/
theorem pointerAfter_cons (pointer : Option String) (one : Handed σ) (later : List (Handed σ)) :
    pointerAfter pointer (one :: later) = pointerAfter one.line.successor later := by
  rw [pointerAfter, pointerAfter, List.getLast?_cons]
  cases later.getLast? <;> rfl

/-- A walk that stops does so at the line that it handed on last, and does nothing after it, or else
it has come to a pointer that names no line, or has used its fuel up. -/
theorem of_stop (h : Walked dispatcher story fuel pointer s handed left) {stop : Stop}
    (hstop : left.value = .error stop) :
    (∃ one, handed.getLast? = some one ∧ one.left.value = .error stop ∧
      ∃ earlier, left.trace = earlier ++ one.trace story) ∨
    (∃ id error, pointerAfter pointer handed = some id ∧ story.line id = .error error ∧
      stop = .failed error) ∨
    handed.length = fuel ∧ stop = .outOfFuel := by
  induction h with
  | ended | returned | stray => cases hstop
  | @lost _ id _ error hline =>
    cases hstop
    exact Or.inr (Or.inl ⟨id, error, rfl, hline, rfl⟩)
  | spent =>
    cases hstop
    exact Or.inr (Or.inr ⟨rfl, rfl⟩)
  | @stopped _ _ one _ _ _ hvalue =>
    cases hstop
    refine Or.inl ⟨one, rfl, hvalue, [], ?_⟩
    rw [Handed.followedBy, List.append_nil, List.nil_append]
  | @goesOn _ _ one _ later _ _ _ _ _ ih =>
    rcases ih hstop with ⟨last, hlast, hvalue, earlier, htrace⟩ | hlost | ⟨hlength, hfuel⟩
    · refine Or.inl ⟨last, ?_, hvalue, one.trace story ++ earlier, ?_⟩
      · rw [List.getLast?_cons, hlast, Option.getD_some]
      · rw [Handed.followedBy, htrace, List.append_assoc]
    · rw [pointerAfter_cons]
      exact Or.inr (Or.inl hlost)
    · exact Or.inr (Or.inr ⟨by rw [List.length_cons, hlength], hfuel⟩)

/-- A walk in a sound story fails only at the line that it handed on last. -/
theorem of_failure {name : String} (hvalid : story.definition.validate name = .ok ())
    (hpointer : ∀ id, pointer = some id → id ∈ story.definition.tree)
    (h : Walked dispatcher story fuel pointer s handed left) {error : EngineError}
    (hfailed : left.value = .error (.failed error)) :
    ∃ one, handed.getLast? = some one ∧ one.left.value = .error (.failed error) ∧
      ∃ earlier, left.trace = earlier ++ one.trace story := by
  rcases h.of_stop hfailed with hlast | ⟨id, other, hafter, hline, -⟩ | ⟨-, hfuel⟩
  · exact hlast
  · have hnamed : id ∈ story.definition.tree := by
      unfold pointerAfter at hafter
      cases hlast : handed.getLast? with
      | none =>
        rw [hlast] at hafter
        exact hpointer id hafter
      | some one =>
        rw [hlast] at hafter
        obtain ⟨key, hkey⟩ := h.line_of_mem (List.mem_of_getLast? hlast)
        exact (StoryDefinition.filed_of_validate hvalid (Story.getElem?_of_line hkey)).2 id
          (Line.mem_pointers_of_successor hafter)
    obtain ⟨line, hfound, -, -⟩ := story.exists_line hvalid hnamed
    rw [hfound] at hline
    cases hline
  · cases hfuel

end Walked

end StoryEngine

import Mathlib.Data.List.TakeWhile
import StoryEngine.Interpreter.Script
import StoryEngine.Proofs.Interpreter.Endings
import StoryEngine.Proofs.Interpreter.Loops
import StoryEngine.Proofs.Story.Visits

/-!
# What a block runs

The lines that follow each other along successors from the entry of a block are the succession of
the block. It passes over nested blocks, because the successor of their owners is the exit. A block
runs the first lines of its succession, as long as they belong to its owner, and is cut short by the
first one that does not produce data. That the succession leads astray at its end is noticed if all
its lines have been run, and not before.
-/

namespace StoryEngine

variable {σ : Type}

/-- The lines that follow each other along successors from a pointer on, to their end: there is no
line to go to, or the last pointer goes astray and names none. -/
inductive Story.Succession (story : Story) : Option String → List Line → Option String → Prop
  | ended : Succession story none [] none
  | astray {id : String} (hline : story.definition.tree[id]? = none) :
      Succession story (some id) [] (some id)
  | cons {id : String} {line : Line} {later : List Line} {stray : Option String}
      (hline : story.definition.tree[id]? = some line)
      (hlater : Succession story line.successor later stray) :
      Succession story (some id) (line :: later) stray

/-- The own part of a succession: the longest first part of it whose lines all belong to the owner
of a block. -/
structure Line.OwnPart (owner : Line) (lines own : List Line) : Prop where
  first : own <+: lines
  belongs : ∀ line ∈ own, line.parent = some owner.ln
  longest : ∀ other, other <+: lines → (∀ line ∈ other, line.parent = some owner.ln) →
    other <+: own

/-- The failure of a pointer that names no line. -/
def Story.strayFailure (story : Story) (id : String) : Stop :=
  .failed (.lineNotFound s!"{id} in story {story.name}")

/-- The state after some lines were handed on. -/
def Handed.stateAfter (s : RunState σ) (handed : List (Handed σ)) : RunState σ :=
  handed.getLast?.elim s fun one => one.left.state

/-- How a block ends whose succession `lines` begins with its own part `own` and ends at `stray`,
with the outcome `last` so far. -/
inductive EndsBlock (story : Story) (lines own : List Line) (stray : Option String)
    (last : Outcome) : List (Handed σ) → Except Stop Outcome → Prop
  /-- A line breaks, returns or stops, and the block ends as it does. -/
  | cut (earlier : List (Handed σ)) {one : Handed σ}
      (hon : ∀ other ∈ earlier, GoesOn other.left.value) (hcut : ¬ GoesOn one.left.value) :
      EndsBlock story lines own stray last (earlier ++ [one]) one.left.value
  /-- All its own lines have been run, and there is no line to go to, or one of another owner. -/
  | done {handed : List (Handed σ)} (hall : handed.map Handed.line = own)
      (hon : ∀ one ∈ handed, GoesOn one.left.value) (hend : own = lines → stray = none) :
      EndsBlock story lines own stray last handed
        (handed.getLast?.elim (.ok last) fun one => one.left.value)
  /-- All lines have been run, they are all its own, and they lead astray. -/
  | lost {handed : List (Handed σ)} {id : String} (hall : handed.map Handed.line = own)
      (hon : ∀ one ∈ handed, GoesOn one.left.value) (hown : own = lines)
      (hstray : stray = some id) :
      EndsBlock story lines own stray last handed (.error (story.strayFailure id))

/-- A run of a block, in terms of the lines that it hands to the dispatcher. -/
structure RunsBlock (dispatcher : Dispatcher σ) (story : Story) (lines own : List Line)
    (stray : Option String) (last : Outcome) (s : RunState σ) (handed : List (Handed σ))
    (left : Acted Event (RunState σ) (Except Stop Outcome)) : Prop where
  /-- They are the first of its own lines, in order. -/
  inOrder : handed.map Handed.line <+: own
  /-- Each is handed on where the one before it ended. -/
  follow : ∀ earlier one later, handed = earlier ++ one :: later →
    one.before = Handed.stateAfter s earlier
  ran : ∀ one ∈ handed, one.left = (dispatcher story one.line).carryOut one.before
  /-- Nothing else is done. -/
  state : left.state = Handed.stateAfter s handed
  trace : left.trace = handed.flatMap fun one => one.trace story
  value : EndsBlock story lines own stray last handed left.value

section

variable {story : Story} {owner line : Line} {lines own : List Line} {stray : Option String}

/-- An id that no line has is looked up in vain. -/
theorem Story.line_eq_error {id : String} (hline : story.definition.tree[id]? = none) :
    story.line id = .error (.lineNotFound s!"{id} in story {story.name}") := by
  simp only [Story.line, StoryDefinition.line?, hline]

/-- An owner owns the lines whose parent it is. -/
theorem Line.owns_iff : owner.owns line = true ↔ line.parent = some owner.ln :=
  decide_eq_true_iff

/-- The own part of a succession is taken from its beginning as long as lines belong to the
owner. -/
theorem Line.ownPart_takeWhile (owner : Line) (lines : List Line) :
    owner.OwnPart lines (lines.takeWhile owner.owns) where
  first := List.takeWhile_prefix _
  belongs _ hline := owns_iff.mp (List.mem_takeWhile_imp hline)
  longest other hfirst hbelongs := by
    obtain ⟨rest, rfl⟩ := hfirst
    have howns : ∀ line ∈ other, owner.owns line = true := fun line hline =>
      owns_iff.mpr (hbelongs line hline)
    rw [List.takeWhile_append_of_pos howns]
    exact List.prefix_append other _

/-- From a pointer from which walks stay on some lines, the succession comes to its end and stays
on these lines. -/
theorem WalksOn.exists_succession {pointer : Option String}
    (h : WalksOn story.definition.tree lines pointer) :
    ∃ chain, story.Succession pointer chain none ∧ chain.Sublist lines := by
  induction h with
  | nowhere lines => exact ⟨[], .ended, List.nil_sublist lines⟩
  | @here line later hfound _ _ _ ih =>
    obtain ⟨chain, hchain, hsub⟩ := ih
    exact ⟨line :: chain, .cons hfound hchain, hsub.cons_cons line⟩
  | @further line later _ _ _ ih =>
    obtain ⟨chain, hchain, hsub⟩ := ih
    exact ⟨chain, hchain, hsub.trans (List.sublist_cons_self line later)⟩

end

namespace Handed

/-- What lines lead to is where the first one of them, followed by the others, leads. -/
theorem elim_getLast?_cons {α : Type} (first : Handed σ) (later : List (Handed σ)) (start : α)
    (f : Handed σ → α) :
    (first :: later).getLast?.elim start f = later.getLast?.elim (f first) f := by
  rw [List.getLast?_cons]
  cases later.getLast? <;> rfl

end Handed

section

variable {story : Story} {lines own : List Line} {stray : Option String} {last : Outcome}
  {handed : List (Handed σ)} {value : Except Stop Outcome}

/-- A line in front that produces data does not change how a block ends. -/
theorem EndsBlock.cons {first : Handed σ} {data : Option Json}
    (h : EndsBlock story lines own stray (.data data) handed value)
    (hdata : first.left.value = .ok (.data data)) :
    EndsBlock story (first.line :: lines) (first.line :: own) stray last (first :: handed)
      value := by
  have hon : GoesOn first.left.value := ⟨data, hdata⟩
  cases h with
  | cut earlier hearlier hcut =>
    exact .cut (first :: earlier) (List.forall_mem_cons.mpr ⟨hon, hearlier⟩) hcut
  | done hall hlater hend =>
    rw [← hdata, ← Handed.elim_getLast?_cons first handed (.ok last) fun one => one.left.value]
    refine .done ?_ (List.forall_mem_cons.mpr ⟨hon, hlater⟩) ?_
    · rw [List.map_cons, hall]
    · exact fun hsame => hend (List.cons.inj hsame).2
  | lost hall hlater hown hstray =>
    refine .lost ?_ (List.forall_mem_cons.mpr ⟨hon, hlater⟩) ?_ hstray
    · rw [List.map_cons, hall]
    · rw [hown]

/-- A block fails by itself exactly if it has run all lines of its succession and they lead
astray. -/
theorem EndsBlock.strays_iff (h : EndsBlock story lines own stray last handed value) :
    (∃ id, stray = some id ∧ value = .error (story.strayFailure id) ∧
      ∀ one ∈ handed, one.left.value ≠ value) ↔
    own = lines ∧ stray.isSome = true ∧ ∀ one ∈ handed, GoesOn one.left.value := by
  cases h with
  | @cut earlier one hon hcut =>
    have hmem : one ∈ earlier ++ [one] := List.mem_append_right _ (List.mem_singleton_self one)
    constructor
    · rintro ⟨_, -, -, hother⟩
      exact absurd rfl (hother one hmem)
    · rintro ⟨-, -, hgoes⟩
      exact absurd (hgoes one hmem) hcut
  | done hall hon hend =>
    constructor
    · rintro ⟨id, -, hvalue, hother⟩
      cases hlast : handed.getLast? with
      | none =>
        rw [hlast] at hvalue
        cases hvalue
      | some one =>
        rw [hlast] at hother
        exact absurd rfl (hother one (List.mem_of_getLast? hlast))
    · rintro ⟨hown, hsome, -⟩
      rw [hend hown] at hsome
      cases hsome
  | @lost _ id hall hon hown hstray =>
    constructor
    · rintro -
      rw [hstray]
      exact ⟨hown, rfl, hon⟩
    · rintro -
      refine ⟨id, hstray, rfl, fun one hone herror => ?_⟩
      obtain ⟨data, hdata⟩ := hon one hone
      rw [hdata] at herror
      cases herror

end

namespace RunsBlock

variable {dispatcher : Dispatcher σ} {story : Story} {lines own : List Line}
  {stray : Option String} {last : Outcome} {s : RunState σ}

/-- A block without a line of its own to run does nothing. -/
theorem nothing {value : Except Stop Outcome}
    (hvalue : EndsBlock (σ := σ) story lines own stray last [] value) :
    RunsBlock dispatcher story lines own stray last s [] ⟨value, s, []⟩ where
  inOrder := List.nil_prefix
  follow := forall_split_nil
  ran := List.forall_mem_nil _
  state := rfl
  trace := rfl
  value := hvalue

variable (first : Handed σ)

/-- A line that does not produce data is the last one that a block runs. -/
theorem cut (hran : first.left = (dispatcher story first.line).carryOut first.before)
    {value : Except Stop Outcome} (hvalue : first.left.value = value) (hcut : ¬ GoesOn value) :
    RunsBlock dispatcher story (first.line :: lines) (first.line :: own) stray last first.before
      [first] (first.followedBy story ⟨value, first.left.state, []⟩) where
  inOrder := List.prefix_cons_inj first.line |>.mpr List.nil_prefix
  follow := forall_split_cons rfl forall_split_nil
  ran := List.forall_mem_singleton.mpr hran
  state := rfl
  trace := rfl
  value := by
    subst hvalue
    exact .cut [] (List.forall_mem_nil _) hcut

/-- A line that produces data is run in front of the rest of its block. -/
theorem cons {data : Option Json} {handed : List (Handed σ)}
    {left : Acted Event (RunState σ) (Except Stop Outcome)}
    (h : RunsBlock dispatcher story lines own stray (.data data) first.left.state handed left)
    (hran : first.left = (dispatcher story first.line).carryOut first.before)
    (hdata : first.left.value = .ok (.data data)) :
    RunsBlock dispatcher story (first.line :: lines) (first.line :: own) stray last first.before
      (first :: handed) (first.followedBy story left) where
  inOrder := List.prefix_cons_inj first.line |>.mpr h.inOrder
  follow := by
    refine forall_split_cons rfl fun earlier one later hsplit => ?_
    rw [Handed.stateAfter, Handed.elim_getLast?_cons]
    exact h.follow earlier one later hsplit
  ran := List.forall_mem_cons.mpr ⟨hran, h.ran⟩
  state := by
    rw [Handed.stateAfter, Handed.elim_getLast?_cons]
    exact h.state
  trace := by
    rw [Handed.followedBy, h.trace, List.flatMap_cons]
  value := h.value.cons hdata

end RunsBlock

namespace Interpreter

/-- The walk of a block with fuel for a succession runs the own part of it. -/
theorem exists_runsBlock (dispatcher : Dispatcher σ) {story : Story} (owner : Line)
    {pointer stray : Option String} {lines : List Line}
    (hlines : story.Succession pointer lines stray) {fuel : Nat} (hfuel : lines.length < fuel)
    (last : Outcome) (s : RunState σ) :
    ∃ handed, RunsBlock dispatcher story lines (lines.takeWhile owner.owns) stray last s handed
      ((walkBlock dispatcher story owner fuel last pointer).carryOut s) := by
  induction hlines generalizing fuel last s with
  | ended =>
    rw [walkBlock_none, Run.carryOut_pure]
    exact ⟨[], .nothing (.done rfl (List.forall_mem_nil _) fun _ => rfl)⟩
  | astray hline =>
    obtain ⟨fuel, rfl⟩ := Nat.exists_eq_add_one.mpr hfuel
    rw [walkBlock_of_error (Story.line_eq_error hline), Run.carryOut_throw]
    exact ⟨[], .nothing (.lost rfl (List.forall_mem_nil _) rfl rfl)⟩
  | @cons id line later stray hline _ ih =>
    obtain ⟨fuel, rfl⟩ := Nat.exists_eq_add_one.mpr (Nat.zero_lt_of_lt hfuel)
    have hfound := story.line_eq_ok hline
    by_cases hparent : line.parent = some owner.ln
    · rw [List.takeWhile_cons_of_pos (Line.owns_iff.mpr hparent), walkBlock_of_line hfound hparent]
      let first : Handed σ := ⟨line, s, (dispatcher story line).carryOut s⟩
      have hrun := carryOut_dispatch_bind dispatcher story first rfl fun outcome =>
        if outcome.isSentinel then pure outcome
        else walkBlock dispatcher story owner fuel outcome line.successor
      rw [hrun]
      cases hvalue : first.left.value with
      | error stop => exact ⟨[first], .cut first rfl hvalue nofun⟩
      | ok outcome =>
        cases outcome with
        | data data =>
          obtain ⟨handed, hlater⟩ := ih (Nat.lt_of_succ_lt_succ hfuel) (.data data) first.left.state
          exact ⟨first :: handed, hlater.cons first rfl hvalue⟩
        | breakOut | returned => exact ⟨[first], .cut first rfl hvalue nofun⟩
    · rw [List.takeWhile_cons_of_neg (hparent ∘ Line.owns_iff.mp),
        walkBlock_of_parent_ne hfound hparent, Run.carryOut_pure]
      exact ⟨[], .nothing (.done rfl (List.forall_mem_nil _) nofun)⟩

/-- A block runs the own part of its succession, in order and up to the first line that does not
produce data, and ends as this line does. If all its own lines produce data, it ends with the data
of the last one, with nothing if there is none, and with a failure exactly if it has run its whole
succession and that leads astray. In a sound story the succession of every block on the course is
found on the course and does not lead astray. -/
theorem executeBlock_runs_own_part :
    (∀ (dispatcher : Dispatcher σ) (story : Story) (owner : Line) (lines : List Line)
      (stray : Option String) (fuel : Nat) (s : RunState σ),
      story.Succession owner.enter lines stray → lines.length < fuel →
        let own := lines.takeWhile owner.owns
        let left := (executeBlock fuel dispatcher story owner).carryOut s
        owner.OwnPart lines own ∧
        ∃ handed, RunsBlock dispatcher story lines own stray .nothing s handed left ∧
          ((∃ id, stray = some id ∧ left.value = .error (story.strayFailure id) ∧
            ∀ one ∈ handed, one.left.value ≠ left.value) ↔
          own = lines ∧ stray.isSome = true ∧ ∀ one ∈ handed, GoesOn one.left.value)) ∧
    ∀ (story : Story) (name : String), story.definition.validate name = .ok () →
      ∀ owner ∈ story.lines, ∃ lines, story.Succession owner.enter lines none ∧
        lines.Sublist story.lines := by
  constructor
  · intro dispatcher story owner lines stray fuel s hlines hfuel own left
    obtain ⟨handed, hruns⟩ := exists_runsBlock dispatcher owner hlines hfuel .nothing s
    exact ⟨owner.ownPart_takeWhile lines, handed, hruns, hruns.value.strays_iff⟩
  · intro story name hvalid owner howner
    obtain ⟨hcourse, -⟩ := story.firstLine_pointsInto hvalid
    exact (hcourse.walksOn (hcourse.enter_pointsInto howner)).exists_succession

/-- A line with a block. -/
def outerLine : Line :=
  { ln := "1", method := .ifBlock, next := some "2", enter := some "2", exit := some "6" }

/-- The lines of the block, one of which has a block of its own, with a line that comes next. -/
def outerBlock (next : String) : List Line :=
  [{ ln := "2", method := .set, next := some "3", parent := some "1" },
    { ln := "3", method := .ifBlock, next := some "4", enter := some "4", exit := some "5"
      parent := some "1" },
    { ln := "5", method := .set, next := some next, parent := some "1" }]

/-- A story with this block. -/
def outerStory (next : String) : Story :=
  .ofLines (outerLine :: { ln := "4", method := .set, next := some "5", parent := some "3" } ::
    { ln := "6", method := .set } :: outerBlock next)

/-- The block passes over the line of the inner block, which the dispatcher runs for its owner. It
is lost at its end if a line comes next that is not there, which a sound story does not have. -/
theorem outerStory_block_is_lost :
    let story := outerStory "7"
    let lines := outerBlock "7"
    let left := (executeBlock 4 (Script.dispatcher ∅ 4) story outerLine).carryOut
      (⟨∅, {}, ()⟩ : RunState Unit)
    story.Succession outerLine.enter lines (some "7") ∧
      (Trace.dispatches left.trace).map Prod.snd = ["2", "3", "4", "5"] ∧
      left.value = .error (.failed (.lineNotFound "7 in story a.story")) ∧
      (∃ handed, RunsBlock (Script.dispatcher ∅ 4) story lines lines (some "7") .nothing
        ⟨∅, {}, ()⟩ handed left) ∧
      (outerStory "6").definition.validate "a.story" = .ok () ∧
      ∃ found, (outerStory "6").Succession outerLine.enter found none ∧
        found.Sublist (outerStory "6").lines := by
  intro story lines left
  have hlines : story.Succession outerLine.enter lines (some "7") :=
    .cons rfl (.cons rfl (.cons rfl (.astray rfl)))
  have hvalid : (outerStory "6").definition.validate "a.story" = .ok () := rfl
  obtain ⟨hblock, hsound⟩ := executeBlock_runs_own_part (σ := Unit)
  obtain ⟨-, handed, hruns, -⟩ := hblock (Script.dispatcher ∅ 4) story outerLine lines (some "7") 4
    ⟨∅, {}, ()⟩ hlines (by decide)
  exact ⟨hlines, rfl, rfl, ⟨handed, hruns⟩, hvalid,
    hsound (outerStory "6") "a.story" hvalid outerLine (by decide)⟩

end Interpreter

end StoryEngine

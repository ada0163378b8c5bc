import StoryEngine.Proofs.Interpreter.Along
import StoryEngine.Proofs.Story.Nesting

/-!
# Structured execution

The execution of a story by its intervals instead of its pointers: the lines of an interval that
lie in no block within it run from left to right, and the action of a block owner runs the interval
of its block. In a story with nested blocks whose exits are clear the interpreter does the same, in
every state and under every script.
-/

namespace StoryEngine

variable {σ α β : Type} {script : Script} {story : Story}

/-- Runs lines in order. A break or return leaves the rest of them out; otherwise the outcome is
that of the last one. -/
def runInOrder (run : Nat → Run (RunState σ) Outcome) :
    Outcome → List Nat → Run (RunState σ) Outcome
  | last, [] => pure last
  | _, p :: rest => do
    match ← run p with
    | .data value => runInOrder run (.data value) rest
    | .breakOut => pure .breakOut
    | .returned value => pure (.returned value)

/-- Runs the interval from one position up to another: the lines that lie in no block within it, in
order, each with the interval of its own block. -/
def runInterval (script : Script) (story : Story) (a b : Nat) : Run (RunState σ) Outcome :=
  runInOrder (fun p =>
      if h : a ≤ p ∧ p < story.lines.length then
        let block := runInterval script story (p + 1) (blockEnd story.lines p)
        script.dispatchOn story block story.lines[p]
      else
        pure (.data none))
    (.data none) (unnested story.lines a b)
termination_by story.lines.length - a

/-- The value of a story whose lines have an outcome: that of a return. A break that no loop has
taken up ends the story without a value, as its last line does. -/
def storyValue : Outcome → Option Json
  | .returned value => value
  | .breakOut | .data _ => none

/-- Runs a story as one interval. -/
def runStructured (script : Script) (story : Story) : Run (RunState σ) (Option Json) := do
  pure (storyValue (← runInterval script story 0 story.lines.length))

/-- Runs the line at a position with the interval of its block. -/
def runAt (script : Script) (story : Story) (p : Nat) : Run (RunState σ) Outcome :=
  if h : p < story.lines.length then
    let block := runInterval script story (p + 1) (blockEnd story.lines p)
    script.dispatchOn story block story.lines[p]
  else
    pure (.data none)

/-- Lines that run alike in any order run alike in one. -/
theorem runInOrder_congr {run other : Nat → Run (RunState σ) Outcome} {positions : List Nat}
    (h : ∀ p ∈ positions, run p = other p) (last : Outcome) :
    runInOrder run last positions = runInOrder other last positions := by
  induction positions generalizing last with
  | nil => rfl
  | cons p rest ih =>
    have hrest := ih fun q hq => h q (List.mem_cons_of_mem p hq)
    simp only [runInOrder, h p (List.mem_cons_self ..), hrest]

/-- The first of some lines runs, and its outcome goes on to the others or past them. -/
theorem runInOrder_cons (run : Nat → Run (RunState σ) Outcome) (last : Outcome) (p : Nat)
    (rest : List Nat) :
    runInOrder run last (p :: rest) = (do
      let outcome ← run p
      if outcome.isSentinel then
        pure outcome
      else
        runInOrder run outcome rest) := by
  rw [runInOrder]
  congr 1
  funext outcome
  cases outcome <;> rfl

/-- An interval runs the lines at its unnested positions. -/
theorem runInterval_eq (script : Script) (story : Story) (a b : Nat) :
    runInterval (σ := σ) script story a b =
      runInOrder (runAt script story) (.data none) (unnested story.lines a b) := by
  rw [runInterval]
  refine runInOrder_congr (fun p hp => ?_) (.data none)
  have hap := (mem_unnested.mp hp).1
  by_cases hlength : p < story.lines.length
  · rw [runAt, dif_pos ⟨hap, hlength⟩, dif_pos hlength]
  · rw [runAt, dif_neg fun h => hlength h.2, dif_neg hlength]

namespace Script

/-- A line enters its interval, if a walk of a block from the next line on does. -/
theorem blockAlong_enter (hnested : WellNested story.lines) {p : Nat} (hp : p < story.lines.length)
    (hwalk : p + 1 < blockEnd story.lines p →
      script.blockAlong (σ := σ) story (story.lines.drop (p + 1)) story.lines[p] .nothing
          ((story.lines[p + 1]?).map Line.ln) =
        runInOrder (runAt script story) (.data none)
          ((unnested story.lines (p + 1) (blockEnd story.lines p)).filter (p + 1 ≤ ·))) :
    script.blockAlong (σ := σ) story (story.lines.drop (p + 1)) story.lines[p] .nothing
        story.lines[p].enter =
      runInterval script story (p + 1) (blockEnd story.lines p) := by
  rw [runInterval_eq]
  cases henter : story.lines[p].enter with
  | none =>
    rw [blockEnd_of_enter_eq_none hp henter, unnested_self, blockAlong_none]
    rfl
  | some id =>
    have howner : story.lines[p].enter.isSome = true := by rw [henter, Option.isSome_some]
    rw [← henter, hnested.enter_eq p hp howner, hwalk (hnested.nonempty p hp howner),
      unnested_filter_le_self]

/-- The walk of a block from one of its lines on, or from where none is left, runs the lines of its
interval from there on in order. -/
theorem blockAlong_eq_runInOrder (hcourse : Course story.definition.tree story.lines)
    (hnested : WellNested story.lines) (hclear : ExitsClear story.lines) {o p : Nat}
    (ho : o < story.lines.length)
    (hp : p ∈ unnested story.lines (o + 1) (blockEnd story.lines o) ∨
      ∀ q ∈ unnested story.lines (o + 1) (blockEnd story.lines o), q < p) (last : Outcome) :
    script.blockAlong (σ := σ) story (story.lines.drop p) story.lines[o] last
        ((story.lines[p]?).map Line.ln) =
      runInOrder (runAt script story) last
        ((unnested story.lines (o + 1) (blockEnd story.lines o)).filter (p ≤ ·)) := by
  by_cases hmem : p ∈ unnested story.lines (o + 1) (blockEnd story.lines o)
  · have hlength : p < story.lines.length :=
      Nat.lt_of_lt_of_le (mem_unnested.mp hmem).2.1 (blockEnd_le_length ho)
    have hlt := hnested.lt_blockEnd p
    have hparent := (hnested.mem_unnested_block hcourse ho hlength).mp hmem
    have hblock : script.blockAlong (σ := σ) story (story.lines.drop (p + 1)) story.lines[p]
        .nothing story.lines[p].enter =
        runInterval script story (p + 1) (blockEnd story.lines p) :=
      blockAlong_enter hnested hlength fun hfirst => blockAlong_eq_runInOrder hcourse hnested hclear
        hlength (Or.inl (self_mem_unnested hfirst)) .nothing
    have hrest : ∀ outcome, script.blockAlong (σ := σ) story (story.lines.drop (p + 1))
        story.lines[o] outcome story.lines[p].successor =
        runInOrder (runAt script story) outcome
          ((unnested story.lines (o + 1) (blockEnd story.lines o)).filter
            (blockEnd story.lines p ≤ ·)) := by
      intro outcome
      rw [hcourse.walk_successor hnested
        (fun lines pointer => script.blockAlong (σ := σ) story lines story.lines[o] outcome pointer)
        (fun few many => by rw [blockAlong_none, blockAlong_none])
        (fun line later id hid => by rw [blockAlong, if_pos hid]) hlength]
      exact blockAlong_eq_runInOrder hcourse hnested hclear ho
        (hclear.next_block hnested hcourse ho hmem) outcome
    rw [hnested.unnested_filter_le hmem, List.drop_eq_getElem_cons hlength,
      List.getElem?_eq_getElem hlength, Option.map_some, blockAlong, if_neg (not_not_intro rfl),
      if_neg (not_not_intro hparent), runInOrder_cons, runAt, dif_pos hlength]
    simp only [hblock, hrest]
  · -- where none is left, the walk stops at a line of another block
    rw [filter_le_eq_nil (hp.resolve_left hmem), runInOrder]
    by_cases hlength : p < story.lines.length
    · have hparent : story.lines[p].parent ≠ some story.lines[o].ln := fun hparent =>
        hmem ((hnested.mem_unnested_block hcourse ho hlength).mpr hparent)
      rw [List.drop_eq_getElem_cons hlength, List.getElem?_eq_getElem hlength, Option.map_some,
        blockAlong, if_neg (not_not_intro rfl), if_pos hparent]
    · rw [List.getElem?_eq_none (by omega), List.drop_eq_nil_of_le (by omega), blockAlong]
termination_by story.lines.length - p

/-- A line enters its interval. -/
theorem blockAlong_eq_runInterval (hcourse : Course story.definition.tree story.lines)
    (hnested : WellNested story.lines) (hclear : ExitsClear story.lines) {p : Nat}
    (hp : p < story.lines.length) :
    script.blockAlong (σ := σ) story (story.lines.drop (p + 1)) story.lines[p] .nothing
        story.lines[p].enter =
      runInterval script story (p + 1) (blockEnd story.lines p) :=
  blockAlong_enter hnested hp fun hfirst =>
    blockAlong_eq_runInOrder hcourse hnested hclear hp (Or.inl (self_mem_unnested hfirst)) .nothing

end Script

/-- Two runs do the same, but for what they log. -/
structure AgreesWith (run reference : Run (RunState σ) α) : Prop where
  value_eq : ∀ s, (run.carryOut s).value = (reference.carryOut s).value
  state_eq : ∀ s, (run.carryOut s).state = (reference.carryOut s).state
  dispatches_eq : ∀ s,
    Trace.dispatches (run.carryOut s).trace = Trace.dispatches (reference.carryOut s).trace

namespace AgreesWith

/-- A run agrees with itself. -/
theorem refl (run : Run (RunState σ) α) : AgreesWith run run :=
  ⟨fun _ => rfl, fun _ => rfl, fun _ => rfl⟩

/-- Runs agree if they start alike and what follows agrees. -/
theorem bind {run : Run (RunState σ) α} {next reference : α → Run (RunState σ) β}
    (h : ∀ value, AgreesWith (next value) (reference value)) :
    AgreesWith (run >>= next) (run >>= reference) := by
  constructor
  all_goals
    intro s
    rw [Run.carryOut_bind, Run.carryOut_bind]
    cases (run.carryOut s).value with
    | error stop => rfl
    | ok value =>
      simp only [Trace.dispatches_append, (h value).value_eq, (h value).state_eq,
        (h value).dispatches_eq]

/-- A record makes no difference. -/
theorem log_bind (record : LogRecord) (run : Run (RunState σ) α) :
    AgreesWith (Run.log record >>= fun _ => run) run :=
  ⟨fun _ => rfl, fun _ => rfl, fun _ => rfl⟩

end AgreesWith

/-- The walk of a story from one of its top-level lines on, or from its end, runs the top-level
lines from there on in order. -/
theorem storyAlong_agrees (hcourse : Course story.definition.tree story.lines)
    (hnested : WellNested story.lines) (hclear : ExitsClear story.lines) {p : Nat}
    (hp : p ∈ unnested story.lines 0 story.lines.length ∨ p = story.lines.length) {last : Outcome}
    (hlast : storyValue last = none) :
    AgreesWith (σ := σ)
      (script.storyAlong story (story.lines.drop p) ((story.lines[p]?).map Line.ln))
      (runInOrder (runAt script story) last
          ((unnested story.lines 0 story.lines.length).filter (p ≤ ·)) >>=
        fun outcome => pure (storyValue outcome)) := by
  rcases hp with hmem | rfl
  · have hlength := (mem_unnested.mp hmem).2.1
    have hlt := hnested.lt_blockEnd p
    have hblock : script.blockAlong (σ := σ) story (story.lines.drop (p + 1)) story.lines[p]
        .nothing story.lines[p].enter = _ :=
      Script.blockAlong_eq_runInterval hcourse hnested hclear hlength
    have hrest : ∀ value, AgreesWith (σ := σ)
        (script.storyAlong story (story.lines.drop (p + 1)) story.lines[p].successor)
        (runInOrder (runAt script story) (.data value)
            ((unnested story.lines 0 story.lines.length).filter (blockEnd story.lines p ≤ ·)) >>=
          fun outcome => pure (storyValue outcome)) := by
      intro value
      rw [hcourse.walk_successor hnested (script.storyAlong (σ := σ) story)
        (fun few many => by rw [Script.storyAlong_none, Script.storyAlong_none])
        (fun line later id hid => by rw [Script.storyAlong, if_pos hid]) hlength]
      exact storyAlong_agrees hcourse hnested hclear (hclear.next_story hnested hmem) rfl
    rw [hnested.unnested_filter_le hmem, List.drop_eq_getElem_cons hlength,
      List.getElem?_eq_getElem hlength, Option.map_some, Script.storyAlong,
      if_neg (not_not_intro rfl), runInOrder, runAt, dif_pos hlength, bind_assoc]
    simp only [hblock]
    refine .bind fun outcome => ?_
    cases outcome with
    | data value => exact hrest value
    | breakOut => exact .log_bind _ (pure none)
    | returned value => exact .refl (pure value)
  · rw [filter_le_eq_nil fun q hq => (mem_unnested.mp hq).2.1, runInOrder, pure_bind, hlast,
      List.drop_eq_nil_of_le (Nat.le_refl _), Script.storyAlong]
    exact .refl (pure none)
termination_by story.lines.length - p

/-- In a sound story whose blocks are nested and have their exits clear, every scripted run agrees
with the run by intervals. -/
theorem runStory_agrees_of_exitsClear (script : Script) {name : String}
    (hvalid : story.definition.validate name = .ok ()) (hnested : WellNested story.lines)
    (hclear : ExitsClear story.lines) {fuel : Nat} (hfuel : script.fuelFor story.lines ≤ fuel) :
    AgreesWith (σ := σ) (Interpreter.runStory fuel (script.dispatcher fuel) story)
      (runStructured script story) := by
  obtain ⟨hcourse, -⟩ := story.firstLine_pointsInto hvalid
  have hstart : 0 ∈ unnested story.lines 0 story.lines.length ∨ 0 = story.lines.length := by
    rcases Nat.eq_zero_or_pos story.lines.length with hempty | hpos
    · exact Or.inr hempty.symm
    · exact Or.inl (self_mem_unnested hpos)
  have hlast : storyValue (.data none) = none := rfl
  have hagrees : AgreesWith (σ := σ) (script.storyAlong story _ _) _ :=
    storyAlong_agrees hcourse hnested hclear hstart hlast
  rw [unnested_filter_le_self, List.drop_zero, ← story.firstLine_eq hvalid,
    ← runInterval_eq] at hagrees
  rw [script.runStory_eq_storyAlong hvalid hfuel]
  exact hagrees

end StoryEngine

import StoryEngine.Proofs.Interpreter.Safety
import StoryEngine.Proofs.Story.Visits

/-!
# Which stories run a line twice

Without a loop, a sound story should run no line twice. It does so exactly when no line of its own
walk is run in a block as well. Within blocks a walk stops where the parent changes, so the line to
which a block has its exit is not run in the block; the walk of the story takes any line, and runs
the line at the exit again.
-/

namespace StoryEngine

variable {σ α β : Type} {story : Story}

namespace Story

variable {lines : List Line} {belongs : Line → Bool} {pointer : Option String}

/-- A line of a block comes after the owner of the block. -/
theorem InBlockOf.position_lt {owner line : Line} (h : story.InBlockOf owner line)
    (hcourse : Course story.definition.tree story.lines) (howner : owner ∈ story.lines) :
    story.position owner < story.position line := by
  have hnodup := hcourse.nodup_lines
  obtain ⟨before, later, hcut⟩ := List.append_of_mem howner
  rw [hcut] at hcourse
  have hlater : Course story.definition.tree later := by
    cases hcourse.of_append with
    | cons _ hlater => exact hlater
  have hline : line ∈ later := Meets.mem h hlater hcourse.leadsOn.enter_mem
  have hsub : List.Sublist [owner, line] story.lines := by
    rw [hcut]
    have hpair : List.Sublist [owner, line] (owner :: later) :=
      (List.singleton_sublist.mpr hline).cons_cons owner
    exact hpair.trans (List.sublist_append_right before (owner :: later))
  have hpositions := pairwise_idxOf_of_sublist hnodup hsub
  exact (List.pairwise_pair.mp hpositions)

/-- A line has one parent. -/
theorem InBlockOf.owner_eq {owner other line : Line} (h : story.InBlockOf owner line)
    (h' : story.InBlockOf other line) (hcourse : Course story.definition.tree story.lines)
    (howner : owner ∈ story.lines) (hother : other ∈ story.lines) : owner = other :=
  hcourse.line_eq_of_ln_eq howner hother
    (Option.some.inj (h.parent_eq.symm.trans h'.parent_eq))

open scoped Classical in
/-- The blocks of some lines do not meet a line if none of them does. -/
theorem countP_inBlockOf_eq_zero {owners : List Line} {line : Line} :
    (owners.countP fun owner => story.InBlockOf owner line) = 0 ↔
      ∀ owner ∈ owners, ¬ story.InBlockOf owner line := by
  simp [List.countP_eq_zero]

/-- A line is run if the walk meets it, or if the block of a line that is run does. -/
theorem mem_onceThrough_iff (hcourse : Course story.definition.tree lines)
    (hpointer : PointsInto lines pointer) (line : Line) :
    line ∈ onceThrough belongs lines pointer ↔ story.Meets belongs pointer line ∨
      ∃ owner ∈ onceThrough belongs lines pointer, story.InBlockOf owner line := by
  classical
  rw [← List.count_pos_iff, count_onceThrough hcourse hpointer belongs line]
  by_cases hmeets : story.Meets belongs pointer line
  · rw [if_pos hmeets]
    exact iff_of_true (by omega) (Or.inl hmeets)
  · rw [if_neg hmeets, Nat.zero_add, Nat.pos_iff_ne_zero, Ne, countP_inBlockOf_eq_zero]
    simp [hmeets]

/-- What holds of the lines that the walk meets, and of a line in the block of a line of which it
holds, holds of every line that is run: a line of a block comes after the owner of the block. -/
theorem forall_mem_onceThrough (hcourse : Course story.definition.tree story.lines)
    (hpointer : PointsInto story.lines pointer) {motive : Line → Prop}
    (hmeets : ∀ line, story.Meets belongs pointer line → motive line)
    (hblock : ∀ owner line, owner ∈ onceThrough belongs story.lines pointer → motive owner →
      story.InBlockOf owner line → motive line) :
    ∀ line ∈ onceThrough belongs story.lines pointer, motive line := by
  intro line h
  induction hposition : story.position line using Nat.strongRecOn generalizing line with
  | ind position ih =>
    rcases (mem_onceThrough_iff hcourse hpointer line).mp h with hmet | ⟨owner, howner, hin⟩
    · exact hmeets line hmet
    · have hearlier := hin.position_lt hcourse (mem_of_mem_onceThrough howner)
      exact hblock owner line howner (ih _ (hposition ▸ hearlier) owner howner rfl) hin

/-- If every block is run once, no line is run twice exactly when no line that the walk meets is run
in a block. -/
theorem nodup_onceThrough_iff (hcourse : Course story.definition.tree story.lines)
    (hpointer : PointsInto story.lines pointer) :
    (onceThrough belongs story.lines pointer).Nodup ↔
      ∀ line, story.Meets belongs pointer line →
        ∀ owner ∈ onceThrough belongs story.lines pointer, ¬ story.InBlockOf owner line := by
  classical
  have hcount := count_onceThrough hcourse hpointer belongs
  rw [List.nodup_iff_count]
  constructor
  · intro honce line hmeets
    have hle := honce line
    rw [hcount line, if_pos hmeets] at hle
    exact countP_inBlockOf_eq_zero.mp (by omega)
  · intro hclear line
    have honce : ∀ line ∈ onceThrough belongs story.lines pointer,
        (onceThrough belongs story.lines pointer).count line ≤ 1 := by
      refine forall_mem_onceThrough hcourse hpointer (fun line hmeets => ?_)
        fun owner line howner honce hblock => ?_
      · have hnone := countP_inBlockOf_eq_zero.mpr (hclear line hmeets)
        rw [hcount line, if_pos hmeets]
        omega
      · -- a line that the walk does not meet is run as often as its parent
        have hmeets : ¬ story.Meets belongs pointer line := fun hmeets =>
          hclear line hmeets owner howner hblock
        rw [hcount line, if_neg hmeets, Nat.zero_add]
        refine Nat.le_trans (List.countP_mono_left fun other hother hblock' => ?_) honce
        have hsame := (of_decide_eq_true hblock').owner_eq hblock hcourse
          (mem_of_mem_onceThrough hother) (mem_of_mem_onceThrough howner)
        simp [hsame]
    by_cases hrun : line ∈ onceThrough belongs story.lines pointer
    · exact honce line hrun
    · rw [List.count_eq_zero_of_not_mem hrun]
      exact Nat.zero_le 1

/-- The lines that are run when the story is, each block once. -/
theorem runs_iff_mem (hcourse : Course story.definition.tree story.lines)
    (hfirst : PointsInto story.lines story.firstLine) {line : Line} :
    story.Runs line ↔ line ∈ onceThrough (fun _ => true) story.lines story.firstLine := by
  constructor
  · intro h
    induction h with
    | onTopLevel hmeets => exact (mem_onceThrough_iff hcourse hfirst _).mpr (Or.inl hmeets)
    | inBlock _ hblock ih =>
      exact (mem_onceThrough_iff hcourse hfirst _).mpr (Or.inr ⟨_, ih, hblock⟩)
  · exact forall_mem_onceThrough hcourse hfirst (fun _ => .onTopLevel) (fun _ _ _ => .inBlock) line

end Story

namespace ScriptAction

/-- Whether an action repeats a block. -/
def isLoop : ScriptAction → Bool
  | forEach _ | repeatTimes _ => true
  | data _ | breakOut | returned _ | fail _ | block => false

end ScriptAction

/-- A script repeats no block. -/
def Script.LoopFree (script : Script) : Prop :=
  ∀ (ln : String) (action : ScriptAction), script[ln]? = some action → action.isLoop = false

/-- A run dispatches some of the given lines, in their order. -/
def DispatchesWithin (story : Story) (lines : List Line) (run : Run (RunState σ) α) : Prop :=
  ∀ s, List.Sublist (Trace.dispatches (run.carryOut s).trace)
    (lines.map fun line => (story.name, line.ln))

namespace DispatchesWithin

/-- A run that leaves no event dispatches nothing. -/
theorem of_trace_eq_nil (lines : List Line) {run : Run (RunState σ) α}
    (htrace : ∀ s, Trace.dispatches (run.carryOut s).trace = []) :
    DispatchesWithin story lines run := by
  intro s
  rw [htrace s]
  exact List.nil_sublist _

/-- A run dispatches what its start does and what follows does. -/
theorem bind {first second : List Line} {run : Run (RunState σ) α}
    {next : α → Run (RunState σ) β} (hrun : DispatchesWithin story first run)
    (hnext : ∀ value, DispatchesWithin story second (next value)) :
    DispatchesWithin story (first ++ second) (run >>= next) := by
  intro s
  rw [Run.carryOut_bind, List.map_append]
  cases (run.carryOut s).value with
  | error stop => exact (hrun s).trans (List.sublist_append_left _ _)
  | ok value =>
    simp only [Trace.dispatches_append]
    exact (hrun s).append (hnext value _)

/-- A line that a script without loops does not repeat is dispatched, and then its block at most
once. -/
theorem dispatchOn {script : Script} (hloopFree : script.LoopFree) {lines : List Line} {line : Line}
    {block : Run (RunState σ) Outcome} (hblock : DispatchesWithin story lines block) :
    DispatchesWithin story (line :: lines) (script.dispatchOn story block line) := by
  have hline : DispatchesWithin story [line]
      (Run.emit (.dispatched story.name line.ln) : Run (RunState σ) Unit) := by
    intro s
    simp [Trace.dispatches]
  refine hline.bind fun _ => ?_
  cases hscripted : script[line.ln]? with
  | none =>
    dsimp only
    split
    · exact hblock
    · exact of_trace_eq_nil lines fun _ => rfl
  | some action =>
    cases action with
    | data value => exact of_trace_eq_nil lines fun _ => rfl
    | breakOut => exact of_trace_eq_nil lines fun _ => rfl
    | returned value => exact of_trace_eq_nil lines fun _ => rfl
    | fail error => exact of_trace_eq_nil lines fun _ => rfl
    | block => exact hblock
    | forEach items => cases hloopFree line.ln _ hscripted
    | repeatTimes times => cases hloopFree line.ln _ hscripted

/-- The walk of a block dispatches lines that are run when each block is run once. -/
theorem blockAlong {script : Script} (hloopFree : script.LoopFree) (lines : List Line)
    (owner : Line) (last : Outcome) (pointer : Option String) :
    DispatchesWithin (σ := σ) story (onceThrough owner.owns lines pointer)
      (script.blockAlong story lines owner last pointer) := by
  fun_induction Script.blockAlong script story lines owner last pointer with
  | case1 => exact of_trace_eq_nil _ fun _ => rfl
  | case2 => exact of_trace_eq_nil _ fun _ => rfl
  | case3 line later owner last id hid ih =>
    rw [onceThrough, if_pos hid]
    exact ih
  | case4 => exact of_trace_eq_nil _ fun _ => rfl
  | case5 line later owner last id hid hparent block ihblock ihrest =>
    have howns : owner.owns line = true := by simpa [Line.owns] using hparent
    rw [onceThrough, if_neg hid, if_pos howns, ← List.cons_append]
    refine (dispatchOn hloopFree ihblock).bind fun outcome => ?_
    split
    · exact of_trace_eq_nil _ fun _ => rfl
    · exact ihrest outcome

/-- The walk of a story dispatches lines that are run when each block is run once. -/
theorem storyAlong {script : Script} (hloopFree : script.LoopFree) (lines : List Line)
    (pointer : Option String) :
    DispatchesWithin (σ := σ) story (onceThrough (fun _ => true) lines pointer)
      (script.storyAlong story lines pointer) := by
  fun_induction Script.storyAlong script story lines pointer with
  | case1 => exact of_trace_eq_nil _ fun _ => rfl
  | case2 => exact of_trace_eq_nil _ fun _ => rfl
  | case3 line later id hid ih =>
    rw [onceThrough, if_pos hid]
    exact ih
  | case4 line later id hid block ihrest =>
    rw [onceThrough, if_neg hid, if_pos rfl, ← List.cons_append]
    refine (dispatchOn hloopFree (blockAlong hloopFree later line .nothing line.enter)).bind
      fun outcome => ?_
    cases outcome with
    | returned value => exact of_trace_eq_nil _ fun _ => rfl
    | breakOut => exact of_trace_eq_nil _ fun _ => rfl
    | data value => exact ihrest

end DispatchesWithin

/-- Two runs with known results, one after the other. -/
theorem Run.carryOut_bind_of_ok {run : Run σ α} {next : α → Run σ β} {s s' s'' : σ} {value : α}
    {result : Except Stop β} {first second : Trace}
    (hrun : run.carryOut s = ⟨.ok value, s', first⟩)
    (hnext : (next value).carryOut s' = ⟨result, s'', second⟩) :
    (run >>= next).carryOut s = ⟨result, s'', first ++ second⟩ := by
  rw [Run.carryOut_bind, hrun]
  simp only [hnext]

namespace Script

/-- The events of some lines that are dispatched one after another. -/
def dispatchEvents (story : Story) (lines : List Line) : Trace :=
  lines.map fun line => .dispatched story.name line.ln

/-- From nowhere, no line is run. -/
theorem onceThrough_none (belongs : Line → Bool) (lines : List Line) :
    onceThrough belongs lines none = [] := by
  cases lines <;> rfl

/-- The empty script dispatches a line and runs its block once. -/
theorem carryOut_dispatchOn_empty {line : Line} {lines : List Line}
    {block : Run (RunState σ) Outcome}
    (hblock : ∀ s, block.carryOut s = ⟨.ok .nothing, s, dispatchEvents story lines⟩)
    (hnone : line.enter = none → lines = []) (s : RunState σ) :
    (dispatchOn ∅ story block line).carryOut s =
      ⟨.ok .nothing, s, dispatchEvents story (line :: lines)⟩ := by
  have hlookup : (∅ : Script)[line.ln]? = none := Std.ExtTreeMap.getElem?_empty
  cases henter : line.enter with
  | some first =>
    simp only [dispatchOn, hlookup, henter, Option.isSome_some, if_true, Run.carryOut_bind,
      Run.carryOut_emit, hblock]
    rfl
  | none =>
    rw [hnone henter]
    simp only [dispatchOn, hlookup, henter, Option.isSome_none, Bool.false_eq_true, if_false,
      Run.carryOut_bind, Run.carryOut_emit, Run.carryOut_pure]
    rfl

/-- The walk of a block under the empty script dispatches the lines that are run when each block is
run once. -/
theorem carryOut_blockAlong_empty (lines : List Line) (owner : Line) (pointer : Option String)
    (s : RunState σ) :
    (blockAlong ∅ story lines owner .nothing pointer).carryOut s =
      ⟨.ok .nothing, s, dispatchEvents story (onceThrough owner.owns lines pointer)⟩ := by
  induction lines generalizing owner pointer s with
  | nil => rfl
  | cons line later ih =>
    cases pointer with
    | none => rfl
    | some id =>
      by_cases hid : line.ln = id
      · by_cases hparent : line.parent = some owner.ln
        · have howns : owner.owns line = true := by simpa [Line.owns] using hparent
          have hline := carryOut_dispatchOn_empty (ih line line.enter) fun hnone => by
            rw [hnone, onceThrough_none]
          rw [blockAlong, if_neg (not_not_intro hid), if_neg (not_not_intro hparent), onceThrough,
            if_neg (not_not_intro hid), if_pos howns]
          refine (Run.carryOut_bind_of_ok (hline s) (ih owner line.successor s)).trans ?_
          rw [dispatchEvents, dispatchEvents, ← List.map_append, List.cons_append]
          rfl
        · have howns : ¬ owner.owns line = true := by simpa [Line.owns] using hparent
          rw [blockAlong, if_neg (not_not_intro hid), if_pos hparent, onceThrough,
            if_neg (not_not_intro hid), if_neg howns]
          rfl
      · rw [blockAlong, if_pos hid, onceThrough, if_pos hid]
        exact ih owner (some id) s

/-- A story under the empty script dispatches the lines that are run when each block is run once. -/
theorem carryOut_storyAlong_empty (lines : List Line) (pointer : Option String) (s : RunState σ) :
    (storyAlong ∅ story lines pointer).carryOut s =
      ⟨.ok none, s, dispatchEvents story (onceThrough (fun _ => true) lines pointer)⟩ := by
  induction lines generalizing pointer s with
  | nil => rfl
  | cons line later ih =>
    cases pointer with
    | none => rfl
    | some id =>
      by_cases hid : line.ln = id
      · have hblock (s : RunState σ) :
            (blockAlong ∅ story later line .nothing line.enter).carryOut s = _ :=
          carryOut_blockAlong_empty later line line.enter s
        have hline := carryOut_dispatchOn_empty hblock fun hnone => by
          rw [hnone, onceThrough_none]
        rw [storyAlong, if_neg (not_not_intro hid), onceThrough, if_neg (not_not_intro hid),
          if_pos rfl]
        refine (Run.carryOut_bind_of_ok (hline s) (ih line.successor s)).trans ?_
        rw [dispatchEvents, dispatchEvents, ← List.map_append, List.cons_append]
        rfl
      · rw [storyAlong, if_pos hid, onceThrough, if_pos hid]
        exact ih (some id) s

/-- What was dispatched is read back from the events. -/
theorem dispatches_dispatchEvents (story : Story) (lines : List Line) :
    Trace.dispatches (dispatchEvents story lines) =
      lines.map fun line => (story.name, line.ln) := by
  rw [dispatchEvents, Trace.dispatches, List.filterMap_map]
  exact congrFun List.filterMap_eq_map lines

/-- The empty script repeats no block. -/
theorem loopFree_empty : LoopFree ∅ := by
  intro ln action hscripted
  rw [Std.ExtTreeMap.getElem?_empty] at hscripted
  cases hscripted

end Script

/-- Lines of a course that are run once each have ids that are met once each. -/
theorem Course.nodup_calls (hcourse : Course story.definition.tree story.lines)
    {lines : List Line} (hsub : lines ⊆ story.lines) (hnodup : lines.Nodup) :
    (lines.map fun line => (story.name, line.ln)).Nodup := by
  rw [List.Nodup, List.pairwise_map]
  refine hnodup.imp_of_mem fun {line other} hline hother hne hcall => hne ?_
  exact hcourse.line_eq_of_ln_eq (hsub hline) (hsub hother) (congrArg Prod.snd hcall)

/-- What the run of a block runs comes after the owner of the block. -/
theorem position_lt_of_mem_onceThrough (hcourse : Course story.definition.tree story.lines)
    {owner : Line} (howner : owner ∈ story.lines) :
    ∀ line ∈ onceThrough owner.owns story.lines owner.enter,
      story.position owner < story.position line := by
  refine Story.forall_mem_onceThrough hcourse (hcourse.enter_pointsInto howner)
    (fun line hmeets => ?_) fun inner line hinner hlt hblock => ?_
  · exact Story.InBlockOf.position_lt hmeets hcourse howner
  · exact Nat.lt_trans hlt (hblock.position_lt hcourse (mem_of_mem_onceThrough hinner))

/-- If every block is run once, the walk of a block on a course runs no line twice. -/
theorem nodup_onceThrough_owns (hcourse : Course story.definition.tree story.lines) {owner : Line}
    (howner : owner ∈ story.lines) : (onceThrough owner.owns story.lines owner.enter).Nodup := by
  have henter := hcourse.enter_pointsInto howner
  rw [Story.nodup_onceThrough_iff hcourse henter]
  intro line hmeets other hother hblock
  -- the walk meets lines of the owner, which is not among them itself
  have hsame := Story.InBlockOf.owner_eq hmeets hblock hcourse howner
    (mem_of_mem_onceThrough hother)
  subst hsame
  exact Nat.lt_irrefl _ (position_lt_of_mem_onceThrough hcourse howner _ hother)

/-- Without loops, the run of a block in a sound story dispatches no line twice. The run of the
story dispatches no line twice, whatever the script, exactly when no line that the walk of the story
meets is in the block of a line that is run. -/
theorem dispatches_nodup_iff {name : String} (hvalid : story.definition.validate name = .ok ())
    (s : RunState σ) :
    (∀ owner ∈ story.lines, ∀ (script : Script) (fuel : Nat), script.LoopFree →
      script.fuelFor story.lines ≤ fuel →
      (Trace.dispatches ((Interpreter.executeBlock fuel (script.dispatcher fuel) story
        owner).carryOut s).trace).Nodup) ∧
    ((∀ (script : Script) (fuel : Nat), script.LoopFree → script.fuelFor story.lines ≤ fuel →
        (Trace.dispatches
          ((Interpreter.runStory fuel (script.dispatcher fuel) story).carryOut s).trace).Nodup) ↔
      ∀ line, story.OnTopLevel line → ∀ owner, story.Runs owner →
        ¬ story.InBlockOf owner line) := by
  obtain ⟨hcourse, hfirst⟩ := story.firstLine_pointsInto hvalid
  constructor
  · intro owner howner script fuel hloopFree hfuel
    have hwalk := hcourse.walksOn (hcourse.enter_pointsInto howner)
    have hsteps : story.lines.length ≤ fuel := by
      unfold Script.fuelFor at hfuel
      omega
    rw [Interpreter.executeBlock, script.walkBlock_eq_blockAlong hwalk owner hfuel hsteps]
    have honce := nodup_onceThrough_owns hcourse howner
    exact (DispatchesWithin.blockAlong hloopFree _ _ _ _ s).nodup
      (hcourse.nodup_calls (fun _ => mem_of_mem_onceThrough) honce)
  · have hclear :
        (onceThrough (fun _ => true) story.lines story.firstLine).Nodup ↔ _ :=
      Story.nodup_onceThrough_iff hcourse hfirst
    simp only [← Story.runs_iff_mem hcourse hfirst] at hclear
    constructor
    · intro honce
      refine hclear.mp ?_
      have hempty := honce ∅ _ Script.loopFree_empty (Nat.le_refl _)
      rw [Script.runStory_eq_storyAlong ∅ hvalid (Nat.le_refl _),
        Script.carryOut_storyAlong_empty, Script.dispatches_dispatchEvents] at hempty
      exact List.Pairwise.of_map _ (fun _ _ hne heq => hne (by rw [heq])) hempty
    · intro hcond script fuel hloopFree hfuel
      rw [script.runStory_eq_storyAlong hvalid hfuel]
      exact (DispatchesWithin.storyAlong hloopFree _ _ s).nodup
        (hcourse.nodup_calls (fun _ => mem_of_mem_onceThrough) (hclear.mpr hcond))

/-- A story with a block that has its exit at its own line. -/
def exitIntoBlockStory : Story :=
  .ofLines [
    { ln := "1", method := .ifBlock, next := some "2", enter := some "2", exit := some "2" },
    { ln := "2", method := .set, parent := some "1" }]

/-- A sound story whose block has its exit within the block runs a line twice without a loop: once
in the block, and once where the story goes on. -/
theorem exitIntoBlock_runs_twice :
    let run := (Interpreter.runStory 3 (Script.dispatcher ∅ 3) exitIntoBlockStory).carryOut
      (⟨∅, {}, ()⟩ : RunState Unit)
    exitIntoBlockStory.definition.validate "a.story" = .ok () ∧ Script.LoopFree ∅ ∧
      Trace.dispatches run.trace = [("a.story", "1"), ("a.story", "2"), ("a.story", "2")] ∧
      ¬ (Trace.dispatches run.trace).Nodup := by
  refine ⟨rfl, Script.loopFree_empty, rfl, ?_⟩
  show ¬ [("a.story", "1"), ("a.story", "2"), ("a.story", "2")].Nodup
  decide

/-- The story with a loop runs no line twice under a script that repeats no block: the line to which
the block has its exit has no parent. -/
theorem loopStory_runs_once :
    Interpreter.loopStory.definition.validate "a.story" = .ok () ∧
    ∀ (script : Script) (s : RunState Unit), script.LoopFree →
      (Trace.dispatches ((Interpreter.runStory (script.mostTimes + 5)
        (script.dispatcher (script.mostTimes + 5))
        Interpreter.loopStory).carryOut s).trace).Nodup := by
  have hvalid : Interpreter.loopStory.definition.validate "a.story" = .ok () := rfl
  have hlines : Interpreter.loopStory.lines.length = 4 := rfl
  have hclear : ∀ line, Interpreter.loopStory.OnTopLevel line →
      ∀ owner, Interpreter.loopStory.Runs owner →
        ¬ Interpreter.loopStory.InBlockOf owner line := by
    intro line hmeets owner _ hblock
    have hparent := hblock.parent_eq
    have hfirst : Interpreter.loopStory.line "1" = .ok Interpreter.loopLine := rfl
    have hexit : Interpreter.loopStory.line "4" = .ok { ln := "4", method := .execute } := rfl
    rcases (Story.meets_some_iff hfirst).mp hmeets with ⟨-, rfl | hlater⟩
    · cases hparent
    · rcases (Story.meets_some_iff hexit).mp hlater with ⟨-, rfl | hover⟩
      · cases hparent
      · cases hover
  refine ⟨hvalid, fun script s hloopFree => ?_⟩
  exact (dispatches_nodup_iff hvalid s).2.mpr hclear script _ hloopFree
    (by unfold Script.fuelFor; omega)

end StoryEngine

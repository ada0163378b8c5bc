import StoryEngine.Proofs.Bootstrap.Plan
import StoryEngine.Proofs.Interpreter.Along

/-!
# Safety of sound stories

What validation promises about execution. A walk in a sound story, or in the block of one of its
lines, makes its calls at increasing positions of the course, whatever the dispatcher does, and only
a call can stop it. A scripted run therefore comes to its end, and it never leaves the lines for
which containers were planned.
-/

namespace StoryEngine

variable {σ α β : Type}

/-- Where a line stands on the walk along `next`. -/
def Story.position (story : Story) (line : Line) : Nat :=
  story.lines.idxOf line

/-- Some lines of a list without repetition, in its order, stand at increasing positions. -/
theorem pairwise_idxOf_of_sublist {lines few : List Line} (hnodup : lines.Nodup)
    (hsub : List.Sublist few lines) : (few.map lines.idxOf).Pairwise (· < ·) := by
  have hall : (lines.map lines.idxOf).Pairwise (· < ·) := by
    rw [List.pairwise_map, List.pairwise_iff_getElem]
    intro i j hi hj hij
    rw [hnodup.idxOf_getElem, hnodup.idxOf_getElem]
    exact hij
  exact hall.sublist (hsub.map _)

/-- A recorded run does what the plain run does. The lines that it calls are on the course, at
positions that increase, and come after a given line, if one is given. If the run stops, its last
call stopped in the same way. -/
def CallsInOrder (story : Story) (after : Option Line) (plain : Run (RunState σ) α)
    (recorded : Run (RunState (Recorded σ)) α) : Prop :=
  ∀ (s : RunState σ) (before : List Call), ∃ calls : List Call,
    recorded.carryOut (s.withCalls before) =
      ⟨(plain.carryOut s).value, (plain.carryOut s).state.withCalls (before ++ calls),
        (plain.carryOut s).trace⟩ ∧
    (∀ call ∈ calls, call.line ∈ story.lines) ∧
    ((after.toList ++ calls.map Call.line).map story.position).Pairwise (· < ·) ∧
    calls.length ≤ story.lines.length ∧
    ∀ stop, (plain.carryOut s).value = .error stop →
      ∃ call, calls.getLast? = some call ∧ call.result = .error stop

/-- Calls within the lines that come after a line of a course are in order. -/
theorem CallsWithin.callsInOrder {story : Story} {after : Option Line} {later : List Line}
    {plain : Run (RunState σ) α} {recorded : Run (RunState (Recorded σ)) α}
    (h : CallsWithin later plain recorded) (hnodup : story.lines.Nodup)
    (hafter : List.Sublist (after.toList ++ later) story.lines) :
    CallsInOrder story after plain recorded := by
  intro s before
  obtain ⟨calls, hrun, hcalls, hlast⟩ := h s before
  have hlater : List.Sublist later story.lines :=
    (List.sublist_append_right after.toList later).trans hafter
  refine ⟨calls, hrun, ?_, ?_, ?_, hlast⟩
  · intro call hcall
    exact (hcalls.trans hlater).subset (List.mem_map_of_mem hcall)
  · have hsub := (List.Sublist.refl after.toList).append hcalls
    exact pairwise_idxOf_of_sublist hnodup (hsub.trans hafter)
  · have hlength := (hcalls.trans hlater).length_le
    rw [List.length_map] at hlength
    exact hlength

/-- A run hands on lines of a list only, and its fuel does not end it. -/
structure StaysOn (story : Story) (lines : List Line) (run : Run (RunState σ) α) : Prop where
  dispatches_mem : ∀ s, ∀ call ∈ Trace.dispatches (run.carryOut s).trace,
    ∃ line ∈ lines, call = (story.name, line.ln)
  value_ne : ∀ s, (run.carryOut s).value ≠ .error .outOfFuel

namespace StaysOn

variable {story : Story} {lines : List Line}

/-- A run without an act stays on any lines. -/
theorem pure (value : α) : StaysOn story lines (Pure.pure value : Run (RunState σ) α) where
  dispatches_mem := by simp [Trace.dispatches]
  value_ne := by simp

/-- A failure stays on any lines. -/
theorem fail (error : EngineError) : StaysOn story lines (Run.fail error : Run (RunState σ) α) where
  dispatches_mem := by simp [Trace.dispatches]
  value_ne := by simp

/-- A record stays on any lines. -/
theorem log (record : LogRecord) :
    StaysOn story lines (Run.log record : Run (RunState σ) Unit) where
  dispatches_mem := by simp [Trace.dispatches]
  value_ne := by simp

/-- The start of a pass stays on any lines. -/
theorem bindPass (owner : Line) (item? : Option Json) :
    StaysOn story lines (bindPass owner item? : Run (RunState σ) Unit) where
  dispatches_mem := by simp [Trace.dispatches]
  value_ne := by simp

/-- The dispatch of a line stays on the lines with it. -/
theorem emit {line : Line} (hline : line ∈ lines) :
    StaysOn story lines (Run.emit (.dispatched story.name line.ln) : Run (RunState σ) Unit) where
  dispatches_mem := by
    intro s call hcall
    simp only [Run.carryOut_emit, Trace.dispatches, List.filterMap_cons, List.filterMap_nil,
      List.mem_singleton] at hcall
    exact ⟨line, hline, hcall⟩
  value_ne := by simp

/-- A run stays on some lines if what it starts with does and all that can follow does. -/
theorem bind {run : Run (RunState σ) α} {next : α → Run (RunState σ) β}
    (hrun : StaysOn story lines run) (hnext : ∀ value, StaysOn story lines (next value)) :
    StaysOn story lines (run >>= next) where
  dispatches_mem := by
    intro s call hcall
    rw [Run.carryOut_bind] at hcall
    cases hvalue : (run.carryOut s).value with
    | error stop =>
      simp only [hvalue] at hcall
      exact hrun.dispatches_mem s call hcall
    | ok value =>
      simp only [hvalue, Trace.dispatches_append, List.mem_append] at hcall
      rcases hcall with hfirst | hrest
      · exact hrun.dispatches_mem s call hfirst
      · exact (hnext value).dispatches_mem _ call hrest
  value_ne := by
    intro s
    rw [Run.carryOut_bind]
    cases hvalue : (run.carryOut s).value with
    | error stop =>
      have hstop := hrun.value_ne s
      rw [hvalue] at hstop
      intro hout
      cases hout
      exact hstop rfl
    | ok value => exact (hnext value).value_ne _

/-- A run that stays on some lines stays on more lines. -/
theorem mono {more : List Line} {run : Run (RunState σ) α} (hrun : StaysOn story lines run)
    (hsub : lines ⊆ more) : StaysOn story more run where
  dispatches_mem := by
    intro s call hcall
    obtain ⟨line, hline, rfl⟩ := hrun.dispatches_mem s call hcall
    exact ⟨line, hsub hline, rfl⟩
  value_ne := hrun.value_ne

/-- A loop stays where its block stays. -/
theorem runPasses {block : Run (RunState σ) Outcome} (hblock : StaysOn story lines block)
    (owner : Line) (passes : List (Option Json)) :
    StaysOn story lines (runPasses block owner passes) := by
  induction passes with
  | nil => exact pure _
  | cons item? rest ih =>
    refine bind (bindPass owner item?) fun _ => bind hblock fun outcome => ?_
    cases outcome with
    | data value => exact ih
    | breakOut => exact pure _
    | returned value => exact pure _

/-- A line stays where it stands and where its block stays. -/
theorem dispatchOn (script : Script) {block : Run (RunState σ) Outcome} {line : Line}
    (hline : line ∈ lines) (hblock : StaysOn story lines block) :
    StaysOn story lines (script.dispatchOn story block line) := by
  refine bind (emit hline) fun _ => ?_
  split
  · rename_i action _
    cases action with
    | data value => exact pure _
    | breakOut => exact pure _
    | returned value => exact pure _
    | fail error => exact fail error
    | block => exact hblock
    | forEach items => exact runPasses hblock line _
    | repeatTimes times => exact runPasses hblock line _
  · split
    · exact hblock
    · exact pure _

/-- The walk of a block along a course stays on the course. -/
theorem blockAlong (script : Script) (lines : List Line) (owner : Line) (last : Outcome)
    (pointer : Option String) :
    StaysOn (σ := σ) story lines (script.blockAlong story lines owner last pointer) := by
  fun_induction Script.blockAlong script story lines owner last pointer with
  | case1 => exact pure _
  | case2 => exact pure _
  | case3 line later owner last id _ ih => exact ih.mono (List.subset_cons_self line later)
  | case4 => exact pure _
  | case5 line later owner last id _ _ block ihblock ihrest =>
    have hsub : later ⊆ line :: later := List.subset_cons_self line later
    refine bind (dispatchOn script (List.mem_cons_self ..) (ihblock.mono hsub)) fun outcome => ?_
    split
    · exact pure _
    · exact (ihrest outcome).mono hsub

/-- The walk of a story along a course stays on the course. -/
theorem storyAlong (script : Script) (lines : List Line) (pointer : Option String) :
    StaysOn (σ := σ) story lines (script.storyAlong story lines pointer) := by
  fun_induction Script.storyAlong script story lines pointer with
  | case1 => exact pure _
  | case2 => exact pure _
  | case3 line later id _ ih => exact ih.mono (List.subset_cons_self line later)
  | case4 line later id _ block ihrest =>
    have hsub : later ⊆ line :: later := List.subset_cons_self line later
    have hblock : StaysOn story later block := blockAlong script later line .nothing line.enter
    refine bind (dispatchOn script (List.mem_cons_self ..) (hblock.mono hsub)) fun outcome => ?_
    cases outcome with
    | returned value => exact pure _
    | breakOut => exact bind (log _) fun _ => pure _
    | data => exact ihrest.mono hsub

end StaysOn

namespace Interpreter

/-- In a sound story, the walk of the story makes its calls in order. -/
theorem runStory_callsInOrder {story : Story} {name : String}
    (hvalid : story.definition.validate name = .ok ()) (dispatcher : Dispatcher σ) {fuel : Nat}
    (hfuel : story.lines.length ≤ fuel) :
    CallsInOrder story none (runStory fuel dispatcher story)
      (runStory fuel dispatcher.recording story) := by
  obtain ⟨hcourse, hfirst⟩ := story.firstLine_pointsInto hvalid
  have hcalls := walk_callsWithin (hcourse.walksOn hfirst) dispatcher hfuel
  exact hcalls.callsInOrder hcourse.nodup_lines (List.Sublist.refl _)

/-- In a sound story, the walk of the block of a line makes its calls in order, after the line. -/
theorem executeBlock_callsInOrder {story : Story} {name : String}
    (hvalid : story.definition.validate name = .ok ()) (dispatcher : Dispatcher σ) {owner : Line}
    (howner : owner ∈ story.lines) {fuel : Nat} (hfuel : story.lines.length ≤ fuel) :
    CallsInOrder story (some owner) (executeBlock fuel dispatcher story owner)
      (executeBlock fuel dispatcher.recording story owner) := by
  obtain ⟨hcourse, -⟩ := story.firstLine_pointsInto hvalid
  have hnodup := hcourse.nodup_lines
  obtain ⟨before, later, hcut⟩ := List.append_of_mem howner
  rw [hcut] at hcourse hfuel
  have hlater : Course story.definition.tree (owner :: later) := hcourse.of_append
  have hshort : later.length ≤ fuel := by
    simp only [List.length_append, List.length_cons] at hfuel
    omega
  cases hlater with
  | cons hline hrest =>
    have henter := hrest.walksOn hline.enter_mem
    have hcalls := walkBlock_callsWithin henter dispatcher owner hshort .nothing
    refine CallsWithin.callsInOrder hcalls hnodup ?_
    rw [hcut]
    exact List.sublist_append_right before (owner :: later)

/-- Validation makes execution safe: under every dispatcher, the walk of a sound story and that of
any block in it make their calls in order, the latter after the owner of the block, and stop only
where a call stops; a scripted run ends, and hands on only lines that the launch plan meets. -/
theorem sound_story_is_safe {story : Story} {name : String}
    (hvalid : story.definition.validate name = .ok ()) :
    (∀ (σ : Type) (dispatcher : Dispatcher σ) (fuel : Nat), story.lines.length ≤ fuel →
      CallsInOrder story none (runStory fuel dispatcher story)
        (runStory fuel dispatcher.recording story)) ∧
    (∀ (σ : Type) (dispatcher : Dispatcher σ) (owner : Line) (fuel : Nat), owner ∈ story.lines →
      story.lines.length ≤ fuel →
      CallsInOrder story (some owner) (executeBlock fuel dispatcher story owner)
        (executeBlock fuel dispatcher.recording story owner)) ∧
    (∀ (σ : Type) (script : Script), ∃ run : Run (RunState σ) (Option Json),
      (∀ fuel, script.fuelFor story.lines ≤ fuel →
        runStory fuel (script.dispatcher fuel) story = run) ∧
      ∀ s, (run.carryOut s).value ≠ .error .outOfFuel ∧
        ∀ call ∈ Trace.dispatches (run.carryOut s).trace, ∃ line,
          Bootstrap.Visit.line story line ∈ Bootstrap.visits story ∧
            call = (story.name, line.ln)) := by
  refine ⟨fun σ dispatcher fuel hfuel => runStory_callsInOrder hvalid dispatcher hfuel,
    fun σ dispatcher owner fuel howner hfuel =>
      executeBlock_callsInOrder hvalid dispatcher howner hfuel, ?_⟩
  intro σ script
  have hstays : StaysOn (σ := σ) story story.lines
      (script.storyAlong story story.lines story.firstLine) := .storyAlong script _ _
  refine ⟨script.storyAlong story story.lines story.firstLine,
    fun fuel hfuel => script.runStory_eq_storyAlong hvalid hfuel, fun s => ?_⟩
  refine ⟨hstays.value_ne s, fun call hcall => ?_⟩
  obtain ⟨line, hline, hcall⟩ := hstays.dispatches_mem s call hcall
  exact ⟨line, Bootstrap.line_mem_visits hline, hcall⟩

/-- A line with a block of two lines. -/
def loopLine : Line where
  ln := "1"
  method := .whileLoop
  next := some "2"
  enter := some "2"
  exit := some "4"

/-- A story with the line, the lines of its block and one after them. -/
def loopStory : Story :=
  .ofLines [
    loopLine,
    { ln := "2", method := .execute, next := some "3", parent := some "1" },
    { ln := "3", method := .breakLoop, next := some "4", parent := some "1" },
    { ln := "4", method := .execute }]

/-- In the story with a loop, the block makes its calls in order under every dispatcher, and no
script repeats the block so often that the run has no end. -/
theorem loopStory_is_safe :
    loopStory.definition.validate "a.story" = .ok () ∧
    (∀ dispatcher : Dispatcher Unit,
      CallsInOrder loopStory (some loopLine) (executeBlock 4 dispatcher loopStory loopLine)
        (executeBlock 4 dispatcher.recording loopStory loopLine)) ∧
    ∀ (script : Script) (s : RunState Unit),
      ((runStory (script.mostTimes + 5) (script.dispatcher (script.mostTimes + 5))
        loopStory).carryOut s).value ≠ .error .outOfFuel := by
  have hvalid : loopStory.definition.validate "a.story" = .ok () := rfl
  have hlines : loopStory.lines.length = 4 := rfl
  obtain ⟨-, hblock, hscripts⟩ := sound_story_is_safe hvalid
  refine ⟨hvalid, fun dispatcher => hblock Unit dispatcher loopLine 4 (by decide) (by decide), ?_⟩
  intro script s
  obtain ⟨run, hrun, hsafe⟩ := hscripts Unit script
  rw [hrun _ (by unfold Script.fuelFor; omega)]
  exact (hsafe s).1

end Interpreter

end StoryEngine

import StoryEngine.Proofs.Interpreter.Revisits
import StoryEngine.Proofs.Interpreter.Structured

/-!
# When the interpreter is structured

In a sound story with nested blocks, the interpreter does what structured execution does under every
script exactly when the exits of the blocks are clear. Structured execution under the empty script
reaches every line once. The interpreter goes on at the exit of a block, whatever block that line is
in: on the top level it runs a line in another block there for a second time, and in a block it
stops there and leaves out the lines that are still to come.
-/

namespace StoryEngine

variable {σ : Type} {story : Story}

/-- Lines that leave events and nothing else, one after another. -/
theorem carryOut_runInOrder {run : Nat → Run (RunState σ) Outcome} {events : Nat → Trace}
    {positions : List Nat}
    (h : ∀ p ∈ positions, ∀ s, (run p).carryOut s = ⟨.ok (.data none), s, events p⟩)
    (s : RunState σ) :
    (runInOrder run (.data none) positions).carryOut s =
      ⟨.ok (.data none), s, positions.flatMap events⟩ := by
  induction positions with
  | nil => rfl
  | cons p rest ih =>
    have hrest := ih fun q hq => h q (List.mem_cons_of_mem p hq)
    have hfirst := h p (List.mem_cons_self ..) s
    rw [List.flatMap_cons]
    exact Run.carryOut_bind_of_ok hfirst hrest

/-- The lines at all positions, in order, are the whole list. -/
theorem filterMap_getElem?_range {α : Type} (l : List α) :
    (List.range l.length).filterMap (l[·]?) = l := by
  induction l with
  | nil => rfl
  | cons first rest ih =>
    rw [List.length_cons, List.range_succ_eq_map, List.filterMap_cons_some (by rfl),
      List.filterMap_map]
    exact congrArg (first :: ·) ih

/-- An interval under the empty script dispatches the lines that it reaches. -/
theorem carryOut_runInterval_empty {a b : Nat} (hb : b ≤ story.lines.length) (s : RunState σ) :
    (runInterval ∅ story a b).carryOut s =
      ⟨.ok (.data none), s, Script.dispatchEvents story
        ((nestedOrder story.lines a b).filterMap (story.lines[·]?))⟩ := by
  have hline : ∀ p ∈ unnested story.lines a b, ∀ s : RunState σ,
      (runAt ∅ story p).carryOut s = ⟨.ok (.data none), s, Script.dispatchEvents story
        ((p :: nestedOrder story.lines (p + 1) (blockEnd story.lines p)).filterMap
          (story.lines[·]?))⟩ := by
    intro p hp s
    obtain ⟨hap, hpb, -⟩ := mem_unnested.mp hp
    have hlength : p < story.lines.length := Nat.lt_of_lt_of_le hpb hb
    have hend := blockEnd_le_length hlength
    rw [runAt, dif_pos hlength, List.filterMap_cons_some (List.getElem?_eq_getElem hlength)]
    refine Script.carryOut_dispatchOn_empty (carryOut_runInterval_empty hend) (fun hnone => ?_) s
    rw [nestedOrder_eq hend, blockEnd_of_enter_eq_none hlength hnone, unnested_self]
    rfl
  rw [runInterval_eq, carryOut_runInOrder hline, nestedOrder_eq hb]
  simp only [Script.dispatchEvents, List.filterMap_flatMap, List.map_flatMap]
termination_by story.lines.length - a

/-- Structured execution under the empty script dispatches every line once, in order. -/
theorem carryOut_runStructured_empty (hcourse : Course story.definition.tree story.lines)
    (hnested : WellNested story.lines) (s : RunState σ) :
    (runStructured ∅ story).carryOut s =
      ⟨.ok none, s, Script.dispatchEvents story story.lines⟩ := by
  have hall := carryOut_runInterval_empty (a := 0) (Nat.le_refl story.lines.length) s
  rw [hnested.nestedOrder_story hcourse, filterMap_getElem?_range] at hall
  exact (Run.carryOut_bind_of_ok hall (Run.carryOut_pure none s)).trans (by rw [List.append_nil])

/-- A line of a course is found under its id. -/
theorem Course.line_getElem (hcourse : Course story.definition.tree story.lines) {p : Nat}
    (hp : p < story.lines.length) : story.line story.lines[p].ln = .ok story.lines[p] := by
  obtain ⟨_, -, hleads⟩ := hcourse.exists_leadsOn (List.getElem_mem hp)
  exact story.line_eq_ok hleads.found

/-- The line that is found at a position of a course is the line there. -/
theorem Course.eq_getElem (hcourse : Course story.definition.tree story.lines) {p : Nat}
    {id : String} {line : Line} (hid : (story.lines[p]?).map Line.ln = some id)
    (hline : story.line id = .ok line) :
    ∃ hp : p < story.lines.length, line = story.lines[p] := by
  by_cases hp : p < story.lines.length
  · rw [List.getElem?_eq_getElem hp, Option.map_some] at hid
    cases hid
    rw [hcourse.line_getElem hp] at hline
    cases hline
    exact ⟨hp, rfl⟩
  · rw [List.getElem?_eq_none (Nat.le_of_not_lt hp)] at hid
    cases hid

/-- If no line of a block is on the top level, a line on the top level has no exit inside its block:
the line at the exit would be on the top level and in the block that begins there. -/
theorem not_exitsInside_of_onTopLevel (hcourse : Course story.definition.tree story.lines)
    (hnested : WellNested story.lines)
    (hapart : ∀ line, story.OnTopLevel line → ∀ owner ∈ story.lines, ¬ story.InBlockOf owner line)
    {p : Nat} (hp : p < story.lines.length) (htop : story.OnTopLevel story.lines[p]) :
    ¬ ExitsInside story.lines p := by
  intro hinside
  obtain ⟨k, hpk, hend, hk, henter, hparent⟩ := hnested.exit_of_exitsInside hcourse hinside
  have hexit := hcourse.line_getElem hk
  have hsuccessor : story.lines[p].successor = some story.lines[k + 1].ln := by
    rw [hcourse.successor_eq hp, hend, List.getElem?_eq_getElem hk, Option.map_some]
  have hblock : story.InBlockOf story.lines[k] story.lines[k + 1] := by
    unfold Story.InBlockOf
    rw [henter]
    exact .here hexit (by simpa [Line.owns] using hparent)
  exact hapart _ (htop.next hsuccessor hexit rfl) _ (List.getElem_mem _) hblock

/-- If no line of a block is on the top level, the lines on the top level have no parent. -/
theorem parent_eq_none_of_onTopLevel (hcourse : Course story.definition.tree story.lines)
    (hnested : WellNested story.lines)
    (hfirst : story.firstLine = (story.lines[0]?).map Line.ln)
    (hapart : ∀ line, story.OnTopLevel line → ∀ owner ∈ story.lines, ¬ story.InBlockOf owner line)
    {line : Line} (htop : story.OnTopLevel line) : line.parent = none := by
  have hunnested : ∃ p, ∃ hp : p < story.lines.length, line = story.lines[p] ∧
      p ∈ unnested story.lines 0 story.lines.length := by
    refine htop.preserves (fun id line hid hline => ?_)
      fun line id other hmeets hpos hid hother => ?_
    · obtain ⟨hp, rfl⟩ := hcourse.eq_getElem (hfirst ▸ hid) hline
      exact ⟨0, hp, rfl, self_mem_unnested hp⟩
    · obtain ⟨p, hp, rfl, hmem⟩ := hpos
      rw [hcourse.successor_eq hp] at hid
      obtain ⟨hend, rfl⟩ := hcourse.eq_getElem hid hother
      refine ⟨_, hend, rfl, ?_⟩
      by_contra hnot
      exact not_exitsInside_of_onTopLevel hcourse hnested hapart hp hmeets
        (exitsInside_of_not_mem hnested hmem hend hnot)
  obtain ⟨p, hp, rfl, hmem⟩ := hunnested
  exact (hnested.mem_unnested_story hp).mp hmem

/-- A walk from where a line leads meets later lines only. -/
theorem lt_of_meets_successor (hcourse : Course story.definition.tree story.lines)
    (hnested : WellNested story.lines) {belongs : Line → Bool} {p q : Nat}
    (hp : p < story.lines.length) (hq : q < story.lines.length)
    (hmeets : story.Meets belongs story.lines[p].successor story.lines[q]) : p < q := by
  have hlater : ∃ k, ∃ hk : k < story.lines.length, story.lines[q] = story.lines[k] ∧ p < k := by
    refine hmeets.preserves (fun id line hid hline => ?_) fun line id other _ hpos hid hother => ?_
    · rw [hcourse.successor_eq hp] at hid
      obtain ⟨hend, rfl⟩ := hcourse.eq_getElem hid hline
      exact ⟨_, hend, rfl, hnested.lt_blockEnd p⟩
    · obtain ⟨k, hk, rfl, hpk⟩ := hpos
      rw [hcourse.successor_eq hk] at hid
      obtain ⟨hend, rfl⟩ := hcourse.eq_getElem hid hother
      exact ⟨_, hend, rfl, Nat.lt_trans hpk (hnested.lt_blockEnd k)⟩
  obtain ⟨k, hk, hsame, hpk⟩ := hlater
  rwa [hcourse.eq_of_ln_eq hq hk (congrArg Line.ln hsame)]

/-- A walk of a block that meets a line whose block has its exit inside meets no later line. -/
theorem not_inBlockOf_of_exitsInside (hcourse : Course story.definition.tree story.lines)
    (hnested : WellNested story.lines) {owner : Line} {p q : Nat} (hp : p < story.lines.length)
    (hq : q < story.lines.length) (hpq : p < q) (hinside : ExitsInside story.lines p)
    (hmeets : story.InBlockOf owner story.lines[p]) :
    ¬ story.InBlockOf owner story.lines[q] := by
  intro hmeets'
  obtain ⟨k, hpk, hend, hk, -, hparent⟩ := hnested.exit_of_exitsInside hcourse hinside
  rcases Story.Meets.total hmeets hmeets' with hsame | hlater | hearlier
  · exact absurd (hcourse.eq_of_ln_eq hp hq (congrArg Line.ln hsame)) (Nat.ne_of_lt hpq)
  · -- the line at the exit belongs to another owner, so the walk stops there
    rw [hcourse.successor_eq hp, hend, List.getElem?_eq_getElem hk, Option.map_some,
      Story.meets_some_iff (hcourse.line_getElem hk)] at hlater
    have howner : story.lines[k].ln = owner.ln := by
      have hbelongs : story.lines[k + 1].parent = some owner.ln := by
        simpa [Line.owns] using hlater.1
      exact Option.some.inj (hparent.symm.trans hbelongs)
    have hsame : story.lines[p].parent = some story.lines[k].ln := by
      rw [howner]
      exact hmeets.parent_eq
    have hfirst := (mem_unnested.mp
      ((hnested.mem_unnested_block hcourse (Nat.lt_of_succ_lt hk) hp).mpr hsame)).1
    omega
  · exact Nat.lt_asymm hpq (lt_of_meets_successor hcourse hnested hq hp hearlier)

/-- If the interpreter runs every line once when it runs every block once, the exits are clear. -/
theorem exitsClear_of_onceThrough {name : String}
    (hvalid : story.definition.validate name = .ok ()) (hnested : WellNested story.lines)
    (hnodup : (onceThrough (fun _ => true) story.lines story.firstLine).Nodup)
    (hall : ∀ line ∈ story.lines,
      line ∈ onceThrough (fun _ => true) story.lines story.firstLine) :
    ExitsClear story.lines := by
  obtain ⟨hcourse, hpointer⟩ := story.firstLine_pointsInto hvalid
  have hapart : ∀ line, story.OnTopLevel line → ∀ owner ∈ story.lines,
      ¬ story.InBlockOf owner line := fun line htop owner howner =>
    (Story.nodup_onceThrough_iff hcourse hpointer).mp hnodup line htop owner (hall owner howner)
  have hrun : ∀ p (hp : p < story.lines.length), story.OnTopLevel story.lines[p] ∨
      ∃ owner ∈ story.lines, story.InBlockOf owner story.lines[p] := by
    intro p hp
    rcases (Story.mem_onceThrough_iff hcourse hpointer _).mp (hall _ (List.getElem_mem hp)) with
      htop | ⟨owner, howner, hblock⟩
    · exact Or.inl htop
    · exact Or.inr ⟨owner, mem_of_mem_onceThrough howner, hblock⟩
  intro p hp hinside
  obtain ⟨owner, howner, hblock⟩ := (hrun p hp).resolve_left fun htop =>
    not_exitsInside_of_onTopLevel hcourse hnested hapart hp htop hinside
  refine ⟨by rw [hblock.parent_eq]; exact nofun, fun q hq hpq hsame => ?_⟩
  rw [hblock.parent_eq] at hsame
  rcases hrun q hq with htop | ⟨other, hother, hblock'⟩
  · have hfirst := story.firstLine_eq hvalid
    rw [parent_eq_none_of_onTopLevel hcourse hnested hfirst hapart htop] at hsame
    cases hsame
  · have hln := Option.some.inj (hblock'.parent_eq.symm.trans hsame)
    obtain rfl := hcourse.line_eq_of_ln_eq hother howner hln
    exact not_inBlockOf_of_exitsInside hcourse hnested hp hq hpq hinside hblock hblock'

/-- The interpreter implements structured execution exactly where exits are clear: in a sound story
whose blocks are nested, the scripted runs dispatch the lines, give the value and leave the state,
variables included, of the runs by intervals, whatever the script, if and only if every block that
has its exit in a block within it is the last line of a block itself. -/
theorem runStory_agrees_iff_exitsClear {name : String}
    (hvalid : story.definition.validate name = .ok ()) (hnested : WellNested story.lines)
    (s : RunState σ) :
    (∀ (script : Script) (fuel : Nat), script.fuelFor story.lines ≤ fuel →
      let run := (Interpreter.runStory fuel (script.dispatcher fuel) story).carryOut s
      let reference := (runStructured script story).carryOut s
      Trace.dispatches run.trace = Trace.dispatches reference.trace ∧
        run.value = reference.value ∧ run.state = reference.state) ↔
      ExitsClear story.lines := by
  obtain ⟨hcourse, -⟩ := story.firstLine_pointsInto hvalid
  constructor
  · intro hagrees
    -- the empty script makes both runs dispatch every line that they reach
    have hempty := (hagrees ∅ _ (Nat.le_refl _)).1
    rw [Script.runStory_eq_storyAlong ∅ hvalid (Nat.le_refl _), Script.carryOut_storyAlong_empty,
      carryOut_runStructured_empty hcourse hnested, Script.dispatches_dispatchEvents,
      Script.dispatches_dispatchEvents] at hempty
    refine exitsClear_of_onceThrough hvalid hnested ?_ fun line hline => ?_
    · have honce := hcourse.nodup_calls (List.Subset.refl _) hcourse.nodup_lines
      rw [← hempty] at honce
      exact honce.of_map _
    · have hcall := List.mem_map_of_mem (f := fun line : Line => (story.name, line.ln)) hline
      rw [← hempty] at hcall
      obtain ⟨other, hother, heq⟩ := List.mem_map.mp hcall
      have hsame := hcourse.line_eq_of_ln_eq (mem_of_mem_onceThrough hother) hline
        (congrArg Prod.snd heq)
      rwa [hsame] at hother
  · intro hclear script fuel hfuel
    have hagrees := runStory_agrees_of_exitsClear (σ := σ) script hvalid hnested hclear hfuel
    exact ⟨hagrees.dispatches_eq s, hagrees.value_eq s, hagrees.state_eq s⟩

/-- A story with a loop, a block in it, and a block that begins at the exit of that block. Nothing
comes after the first of the inner blocks. -/
def lastBlockStory : Story :=
  .ofLines [
    { ln := "1", method := .forLoop, next := some "2", enter := some "2", exit := some "5",
      output := some ["item"] },
    { ln := "2", method := .ifBlock, next := some "3", enter := some "3", exit := some "4",
      parent := some "1" },
    { ln := "3", method := .ifBlock, next := some "4", enter := some "4", exit := some "5",
      parent := some "2" },
    { ln := "4", method := .breakLoop, next := some "5", parent := some "3" },
    { ln := "5", method := .set }]

/-- A script that leaves a loop over two items at the innermost line. -/
def breakScript : Script :=
  .ofEntries [("1", .forEach [.int 1, .int 2]), ("4", .breakOut)]

/-- The block inside the loop has its exit inside, but it is the last line there: the run agrees
with the run by intervals. -/
theorem lastBlockStory_agrees :
    let run := (Interpreter.runStory 6 (breakScript.dispatcher 6) lastBlockStory).carryOut
      (⟨∅, {}, ()⟩ : RunState Unit)
    let reference := (runStructured breakScript lastBlockStory).carryOut ⟨∅, {}, ()⟩
    WellNested lastBlockStory.lines ∧ ExitsInside lastBlockStory.lines 1 ∧
      ExitsClear lastBlockStory.lines ∧
      (Trace.dispatches run.trace).map Prod.snd = ["1", "2", "3", "4", "5"] ∧
      Trace.dispatches run.trace = Trace.dispatches reference.trace ∧
      run.value = reference.value ∧ run.state = reference.state := by
  have hvalid : lastBlockStory.definition.validate "a.story" = .ok () := rfl
  have hnested : WellNested lastBlockStory.lines := by
    constructor <;> decide
  have hclear : ExitsClear lastBlockStory.lines := by decide
  have hfuel : breakScript.fuelFor lastBlockStory.lines ≤ 6 := by decide
  exact ⟨hnested, by decide, hclear, rfl,
    (runStory_agrees_iff_exitsClear hvalid hnested _).mpr hclear breakScript 6 hfuel⟩

/-- A story in which the last line of a block owns a block after it: the two intervals are disjoint,
but the second one lies where the first block has its exit. -/
def overlappingStory : Story :=
  .ofLines [
    { ln := "1", method := .ifBlock, next := some "2", enter := some "2", exit := some "3" },
    { ln := "2", method := .ifBlock, next := some "3", enter := some "3", exit := some "4",
      parent := some "1" },
    { ln := "3", method := .set, next := some "4", parent := some "2" },
    { ln := "4", method := .set }]

/-- In a sound story with nested blocks the interpreter may run a line twice that structured
execution runs once: a line to which a block on the top level has its exit, in a block within it. -/
theorem overlappingStory_differs :
    let run := (Interpreter.runStory 5 (Script.dispatcher ∅ 5) overlappingStory).carryOut
      (⟨∅, {}, ()⟩ : RunState Unit)
    let reference := (runStructured ∅ overlappingStory).carryOut (⟨∅, {}, ()⟩ : RunState Unit)
    overlappingStory.definition.validate "a.story" = .ok () ∧ WellNested overlappingStory.lines ∧
      ¬ ExitsClear overlappingStory.lines ∧
      (Trace.dispatches run.trace).map Prod.snd = ["1", "2", "3", "3", "4"] ∧
      (Trace.dispatches reference.trace).map Prod.snd = ["1", "2", "3", "4"] := by
  have hvalid : overlappingStory.definition.validate "a.story" = .ok () := rfl
  have hnested : WellNested overlappingStory.lines := by
    constructor <;> decide
  obtain ⟨hcourse, -⟩ := overlappingStory.firstLine_pointsInto hvalid
  refine ⟨hvalid, hnested, by decide, rfl, ?_⟩
  rw [carryOut_runStructured_empty hcourse hnested]
  rfl

end StoryEngine

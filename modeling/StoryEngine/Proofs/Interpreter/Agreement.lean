import StoryEngine.Proofs.Interpreter.Fuel
import StoryEngine.Proofs.Interpreter.Loops
import StoryEngine.Proofs.Interpreter.Safety

/-!
# Loops that agree

A loop over items is a loop with a condition: one that takes the next item, binds it and holds, and
does not hold any more when the items have run out. If there is no name to bind, only the number of
items matters, and a script may count the passes instead. Counting takes fuel of its own, so that
runs are compared over all fuel: one run outlasts another if it does the same and maybe more.
-/

namespace StoryEngine

variable {σ α : Type}

/-- Whether two runs that take fuel do the same: what one leaves with some fuel the other one leaves
with some fuel, and what one shows with some fuel is what the other one shows at first. -/
structure SameRuns (run other : Nat → Run (RunState σ) α) : Prop where
  leaves_iff : ∀ s left, left.value ≠ .error .outOfFuel →
    ((∃ fuel, (run fuel).carryOut s = left) ↔ ∃ fuel, (other fuel).carryOut s = left)
  shown : ∀ fuel, ∃ more, ∀ s, ((run fuel).carryOut s).trace <+: ((other more).carryOut s).trace
  shows : ∀ fuel, ∃ more, ∀ s, ((other fuel).carryOut s).trace <+: ((run more).carryOut s).trace

/-- Runs that outlast each other do the same. -/
theorem SameRuns.of_outlasts {run other : Nat → Run (RunState σ) α}
    (hother : ∀ fuel, ∃ more, Outlasts (other more) (run fuel))
    (hrun : ∀ fuel, ∃ more, Outlasts (run more) (other fuel)) : SameRuns run other where
  leaves_iff s left hleft := by
    constructor
    · rintro ⟨fuel, rfl⟩
      obtain ⟨more, hmore⟩ := hother fuel
      exact ⟨more, hmore.prolongs s hleft⟩
    · rintro ⟨fuel, rfl⟩
      obtain ⟨more, hmore⟩ := hrun fuel
      exact ⟨more, hmore.prolongs s hleft⟩
  shown fuel := (hother fuel).imp fun _ hmore => hmore.trace
  shows fuel := (hrun fuel).imp fun _ hmore => hmore.trace

namespace Interpreter

/-- A condition that takes the next item, binds it for the owner of a loop and holds, and does not
hold when there is none. -/
def nextItem (owner : Line) : Condition σ (List Json)
  | [] => pure (false, [])
  | item :: items => do
    bindPass owner (some item)
    pure (true, items)

/-- A loop that takes items runs a pass for each, if there is fuel for its tests. -/
theorem passesWhile_nextItem (block : Run (RunState σ) Outcome) (owner : Line) {items : List Json}
    {fuel : Nat} (hfuel : items.length < fuel) :
    passesWhile block (nextItem owner) fuel items = runPasses block owner (items.map some) := by
  induction items generalizing fuel with
  | nil =>
    obtain ⟨fuel, rfl⟩ := Nat.exists_eq_add_one.mpr hfuel
    rfl
  | cons item items ih =>
    obtain ⟨fuel, rfl⟩ := Nat.exists_eq_add_one.mpr (Nat.zero_lt_of_lt hfuel)
    rw [passesWhile, nextItem, bind_assoc]
    simp only [pure_bind, if_true, ih (Nat.lt_of_succ_lt_succ hfuel)]
    exact (runPasses_cons block owner (some item) _).symm

variable (dispatcher : Dispatcher σ) (story : Story) (owner : Line) (items : List Json) (fuel : Nat)

/-- A loop over items is a loop that takes them, if there is fuel for its tests. -/
theorem loopWhile_nextItem (hfuel : items.length < fuel) :
    loopWhile fuel dispatcher story owner (nextItem owner) items =
      forEach fuel dispatcher story owner items := by
  rw [loopWhile, passesWhile_nextItem _ owner hfuel, forEach_eq_runPasses]

/-- A loop over items outlasts the loop that takes them. -/
theorem forEach_outlasts_loopWhile :
    Outlasts (forEach fuel dispatcher story owner items)
      (loopWhile fuel dispatcher story owner (nextItem owner) items) := by
  have htests : items.length < fuel + (items.length + 1) := by omega
  rw [forEach_eq_runPasses, ← passesWhile_nextItem _ owner htests]
  exact .passesWhile (.refl _) _ (Nat.le_add_right fuel _) items

/-- With fuel for its tests, a loop that takes items outlasts the loop over them. -/
theorem loopWhile_outlasts_forEach :
    Outlasts
      (loopWhile (fuel + (items.length + 1)) dispatcher story owner (nextItem owner) items)
      (forEach fuel dispatcher story owner items) := by
  rw [loopWhile_nextItem dispatcher story owner items _ (by omega)]
  exact .forEach (Nat.le_add_right fuel _) (fun _ _ _ => .refl _) owner items

end Interpreter

/-- Without a name to bind, the passes of a loop need no items. -/
theorem runPasses_of_firstOutput {owner : Line} (hname : owner.firstOutput = none)
    (block : Run (RunState σ) Outcome) (passes : List (Option Json)) :
    runPasses block owner passes = runPasses block owner (List.replicate passes.length none) := by
  have hbind (item? : Option Json) : bindPass (σ := σ) owner item? = bindPass owner none := by
    cases item? with
    | none => rfl
    | some item =>
      rw [← Interpreter.bindItem_eq_bindPass, Interpreter.bindItem, hname]
      rfl
  induction passes with
  | nil => rfl
  | cons item? passes ih =>
    rw [List.length_cons, List.replicate_succ, runPasses, runPasses, hbind, ih]

/-- Whether two actions do the same for a line. -/
def ScriptAction.Interchanges (line : Line) (action other : ScriptAction) : Prop :=
  ∀ (σ : Type) (block : Run (RunState σ) Outcome),
    action.performOn block line = other.performOn block line

/-- A loop over items that are bound to no name does the same as one that counts them. -/
theorem ScriptAction.interchanges_repeatTimes {line : Line} (hname : line.firstOutput = none)
    (items : List Json) :
    (ScriptAction.forEach items).Interchanges line (.repeatTimes items.length) := by
  intro σ block
  have hpasses := runPasses_of_firstOutput hname block (items.map some)
  rwa [List.length_map] at hpasses

namespace Script

variable {story : Story} {script other : Script} {fuel more : Nat}

/-- Whether two scripts do the same for each line of a story. -/
def Interchanges (story : Story) (script other : Script) : Prop :=
  ∀ id line, story.line id = .ok line →
    (script.actionFor? line = none ∧ other.actionFor? line = none) ∨
    ∃ action next, script.actionFor? line = some action ∧ other.actionFor? line = some next ∧
      action.Interchanges line next

/-- Scripts that differ at one id do the same if their actions for the lines with this id do. -/
theorem interchanges_insert (script : Script) {ln : String} {action next : ScriptAction}
    (hsame : ∀ id line, story.line id = .ok line → line.ln = ln →
      action.Interchanges line next) :
    Interchanges story (script.insert ln action) (script.insert ln next) := by
  intro id line hline
  have haction (action : ScriptAction) : actionFor? (script.insert ln action) line =
      if ln = line.ln then some action else script.actionFor? line := by
    simp only [actionFor?, Std.ExtTreeMap.getElem?_insert, Std.LawfulEqCmp.compare_eq_iff_eq]
    split <;> rfl
  rw [haction, haction]
  split
  · rename_i hln
    exact .inr ⟨action, next, rfl, rfl, hsame id line hline hln.symm⟩
  · cases script.actionFor? line with
    | none => exact .inl ⟨rfl, rfl⟩
    | some same => exact .inr ⟨same, same, rfl, rfl, fun _ _ => rfl⟩

/-- What an action does with a block outlasts what it does with the lines of the block and fuel. -/
theorem performOn_outlasts_perform (inner : Dispatcher σ) (story : Story) (line : Line)
    (fuel : Nat) (action : ScriptAction) :
    Outlasts (action.performOn (Interpreter.executeBlock fuel inner story line) line)
      (perform fuel inner story line action) := by
  cases action with
  | data | breakOut | returned | fail | block => exact .refl _
  | forEach items =>
    rw [perform, Interpreter.forEach_eq_runPasses]
    exact .refl _
  | repeatTimes times =>
    have htests : times < fuel + (times + 1) := by omega
    rw [ScriptAction.performOn, ScriptAction.passes,
      ← Interpreter.passesWhile_countdown _ line htests]
    exact .passesWhile (.refl _) _ (Nat.le_add_right fuel _) times

/-- What an action does with a block is outlasted by what it does with one that outlasts it. -/
theorem performOn_outlasts {more block : Run (RunState σ) Outcome} (hblock : Outlasts more block)
    (line : Line) (action : ScriptAction) :
    Outlasts (action.performOn more line) (action.performOn block line) := by
  cases action with
  | data | breakOut | returned | fail => exact .refl _
  | block => exact hblock
  | forEach | repeatTimes => exact hblock.runPasses line _

/-- If two scripts do the same for each line of a story, the dispatcher of the one outlasts that of
the other with fuel for its loops. -/
theorem dispatcher_outlasts (hsame : Interchanges story script other) (fuel : Nat) {id : String}
    {line : Line} (hline : story.line id = .ok line) :
    Outlasts (other.dispatcher (σ := σ) (fuel + (other.mostTimes + 1)) story line)
      (script.dispatcher fuel story line) := by
  induction fuel generalizing id line with
  | zero => exact .outOfFuel _
  | succ fuel ih =>
    have hfuel : fuel + 1 + (other.mostTimes + 1) = fuel + (other.mostTimes + 1) + 1 := by omega
    rw [hfuel, dispatcher, dispatcher]
    rcases hsame id line hline with ⟨haction, hother⟩ | ⟨action, next, haction, hother, hboth⟩
    · simp only [haction, hother]
      exact .refl _
    · have htimes : next.times < fuel + (other.mostTimes + 1) := by
        have hmost := times_le_mostTimes hother
        omega
      have hblock := Outlasts.executeBlock (Nat.le_add_right fuel (other.mostTimes + 1))
        (fun _ _ hfound => ih hfound) line
      simp only [haction, hother, perform_eq_performOn htimes, ← hboth σ]
      exact (performOn_outlasts hblock line action).trans
        (performOn_outlasts_perform _ story line fuel action)

/-- If two scripts do the same for each line of a story, the run with the one outlasts the run with
the other. -/
theorem exists_runStory_outlasts (hsame : Interchanges story script other) (fuel : Nat) :
    ∃ more, Outlasts (Interpreter.runStory more (other.dispatcher (σ := σ) more) story)
      (Interpreter.runStory fuel (script.dispatcher fuel) story) :=
  ⟨fuel + (other.mostTimes + 1), .walk (Nat.le_add_right fuel _)
    (fun _ _ hline => dispatcher_outlasts hsame fuel hline) story.firstLine⟩

end Script

namespace Interpreter

/-- A loop over items and the loop with a condition that takes and binds the next item are the same
run, whatever the dispatcher does, as soon as there is fuel for the tests of the condition, and they
do the same over all fuel. If a line has no name to bind, a script may loop over items for it or
count the same number of passes: the story runs in the same way. -/
theorem loops_agree :
    (∀ (dispatcher : Dispatcher σ) (story : Story) (owner : Line) (items : List Json),
      (∀ fuel, items.length < fuel →
        loopWhile fuel dispatcher story owner (nextItem owner) items =
          forEach fuel dispatcher story owner items) ∧
      SameRuns (fun fuel => forEach fuel dispatcher story owner items)
        fun fuel => loopWhile fuel dispatcher story owner (nextItem owner) items) ∧
    ∀ (story : Story) (script : Script) (ln : String) (items : List Json),
      (∀ id line, story.line id = .ok line → line.ln = ln → line.firstOutput = none) →
        SameRuns
          (fun fuel => runStory (σ := σ) fuel
            (Script.dispatcher (script.insert ln (.forEach items)) fuel) story)
          fun fuel => runStory fuel
            (Script.dispatcher (script.insert ln (.repeatTimes items.length)) fuel) story := by
  constructor
  · intro dispatcher story owner items
    refine ⟨fun fuel => loopWhile_nextItem dispatcher story owner items fuel, .of_outlasts ?_ ?_⟩
    · exact fun fuel => ⟨_, loopWhile_outlasts_forEach dispatcher story owner items fuel⟩
    · exact fun fuel => ⟨_, forEach_outlasts_loopWhile dispatcher story owner items fuel⟩
  · intro story script ln items hname
    have hsame : ∀ id line, story.line id = .ok line → line.ln = ln →
        (ScriptAction.forEach items).Interchanges line (.repeatTimes items.length) :=
      fun id line hline hln =>
        ScriptAction.interchanges_repeatTimes (hname id line hline hln) items
    refine .of_outlasts ?_ ?_
    · exact Script.exists_runStory_outlasts (script.interchanges_insert hsame)
    · refine Script.exists_runStory_outlasts (script.interchanges_insert ?_)
      exact fun id line hline hln σ block => (hsame id line hline hln σ block).symm

/-- The loop of a story that binds no name goes round twice for two items and for the number two,
and the story ends alike. A loop that binds its items, one of which ends it, is the same as a loop
that takes them. -/
theorem loopStory_counts_items :
    let items : List Json := [.null, .int 5]
    let script : Script := .ofEntries [("4", .returned (some .null))]
    let looped (fuel : Nat) := (runStory fuel
      (Script.dispatcher (script.insert "1" (.forEach items)) fuel) loopStory :
        Run (RunState Unit) (Option Json))
    let counted (fuel : Nat) := (runStory fuel
      (Script.dispatcher (script.insert "1" (.repeatTimes 2)) fuel) loopStory :
        Run (RunState Unit) (Option Json))
    let left := (looped 4).carryOut ⟨∅, {}, ()⟩
    (∀ id line, loopStory.line id = .ok line → line.ln = "1" → line.firstOutput = none) ∧
      SameRuns looped counted ∧
      left.value = .ok (some .null) ∧
      (Trace.dispatches left.trace).map Prod.snd = ["1", "2", "3", "2", "3", "4"] ∧
      (∃ fuel, (counted fuel).carryOut ⟨∅, {}, ()⟩ = left) ∧
      loopWhile 4 rebindingDispatcher itemsStory itemsLine (nextItem itemsLine)
          [.int 1, .int 2, .int 3] =
        forEach 4 rebindingDispatcher itemsStory itemsLine [.int 1, .int 2, .int 3] := by
  intro items script looped counted left
  have hname : ∀ id line, loopStory.line id = .ok line → line.ln = "1" →
      line.firstOutput = none := by
    intro id line hline _
    have hnames : ∀ entry ∈ loopStory.definition.tree.toList, entry.2.firstOutput = none := by
      decide
    exact hnames (id, line)
      (Std.ExtTreeMap.mem_toList_iff_getElem?_eq_some.mpr (Story.getElem?_of_line hline))
  have hsame : SameRuns looped counted :=
    (loops_agree (σ := Unit)).2 loopStory script "1" items hname
  have hvalue : left.value = .ok (some .null) := rfl
  refine ⟨hname, hsame, hvalue, rfl, ?_, ?_⟩
  · exact (hsame.leaves_iff ⟨∅, {}, ()⟩ left (by rw [hvalue]; nofun)).mp ⟨4, rfl⟩
  · exact (loops_agree.1 rebindingDispatcher itemsStory itemsLine _).1 4 (by decide)

end Interpreter

end StoryEngine

import StoryEngine.Proofs.Interpreter.Machine
import StoryEngine.Proofs.Interpreter.Safety

/-!
# Unwinding

How breaks, returns and failures leave the blocks and loops of a scripted run. A sentinel crosses
activations one by one: a return crosses all of them, a break crosses blocks and is taken up by the
innermost loop. The log of a run is cut at the dispatch of a line to find the activations that were
active then, and since the machine is deterministic the rest of the log is what follows from them.
-/

namespace StoryEngine.Machine

variable {script : Script} {story : Story}

/-- Steps can be cut at any event: there is a state before it and a step that leaves it. -/
theorem Steps.cut {a c : Config} {before rest : Trace} {event : Event}
    (h : Steps script story a (before ++ event :: rest) c) :
    ∃ b later, Steps script story a before b ∧ step script story b = some (some event, later) ∧
      Steps script story later rest c := by
  generalize htrace : before ++ event :: rest = trace at h
  induction h generalizing before with
  | refl config => simp at htrace
  | @next config later last event? trace hstep hlater ih =>
    cases event? with
    | none =>
      obtain ⟨b, d, hbefore, hevent, hrest⟩ := ih htrace
      exact ⟨b, d, .next hstep hbefore, hevent, hrest⟩
    | some first =>
      cases before with
      | nil =>
        cases htrace
        exact ⟨config, later, .refl config, hstep, hlater⟩
      | cons head before =>
        obtain ⟨rfl, htail⟩ := List.cons.inj htrace
        obtain ⟨b, d, hbefore, hevent, hrest⟩ := ih htail
        exact ⟨b, d, .next hstep hbefore, hevent, hrest⟩

/-- Steps to a state without a next one go through every state that the machine reaches from the
same start, since the machine is deterministic. -/
theorem Steps.through {a b c : Config} {first whole : Trace} (hfirst : Steps script story a first b)
    (hwhole : Steps script story a whole c) (hend : step script story c = none) :
    ∃ rest, whole = first ++ rest ∧ Steps script story b rest c := by
  induction hfirst generalizing whole with
  | refl => exact ⟨whole, rfl, hwhole⟩
  | next hstep _ ih =>
    cases hwhole with
    | refl =>
      rw [hend] at hstep
      cases hstep
    | next hsame hrest =>
      rw [hsame] at hstep
      cases hstep
      obtain ⟨rest, rfl, hfinal⟩ := ih hrest
      exact ⟨rest, (List.append_assoc ..).symm, hfinal⟩

/-- A halted machine takes no steps. -/
theorem Steps.of_final {result : Except Stop (Option Json)} {scope : Scope} {trace : Trace}
    {c : Config} (h : Steps script story (.final result scope) trace c) :
    trace = [] ∧ c = .final result scope := by
  cases h with
  | refl => exact ⟨rfl, rfl⟩
  | next hstep _ => cases hstep

/-- The machine ends in one way only. -/
theorem Steps.final_unique {a : Config} {first second : Except Stop (Option Json)}
    {scope other : Scope} {trace log : Trace}
    (hfirst : Steps script story a trace (.final first scope))
    (hsecond : Steps script story a log (.final second other)) : log = trace ∧ second = first := by
  obtain ⟨rest, rfl, hrest⟩ := hfirst.through hsecond rfl
  obtain ⟨rfl, hfinal⟩ := hrest.of_final
  cases hfinal
  exact ⟨List.append_nil trace, rfl⟩

/-- A step that leaves an event hands a line of the innermost walk to the script, or it ends the run
with the record of a break that no loop took up. -/
theorem step_event {a b : Config} {event : Event}
    (hstep : step script story a = some (some event, b)) :
    (∃ line, event = .dispatched story.name line.ln ∧
      b = .performing line a.stack a.scope (script.actionFor? line)) ∨
    (∃ line, event = .logged (Interpreter.strayBreak line) ∧ b = .final (.ok none) a.scope) := by
  revert hstep
  fun_cases step script story a with
  | case3 scope last id stack line =>
    intro hstep
    cases hstep
    exact Or.inl ⟨line, rfl, rfl⟩
  | case7 scope line =>
    intro hstep
    cases hstep
    exact Or.inr ⟨line, rfl, rfl⟩
  | _ =>
    intro hstep
    cases hstep

/-- Steps can be cut at the dispatch of a line: there is a state in which the line is handed to the
script, and the rest follows from what the script does. -/
theorem Steps.cut_dispatch {a c : Config} {before rest : Trace} {ln : String}
    (h : Steps script story a (before ++ .dispatched story.name ln :: rest) c) :
    ∃ config line, line.ln = ln ∧ Steps script story a before config ∧
      step script story config = some (some (.dispatched story.name ln),
        .performing line config.stack config.scope (script.actionFor? line)) ∧
      Steps script story
        (.performing line config.stack config.scope (script.actionFor? line)) rest c := by
  obtain ⟨config, next, hbefore, hstep, hrest⟩ := h.cut
  rcases step_event hstep with ⟨line, hevent, rfl⟩ | ⟨line, hevent, -⟩
  · cases hevent
    exact ⟨config, line, rfl, hbefore, hstep, hrest⟩
  · cases hevent

/-- The action for a line that the script mentions. -/
theorem actionFor?_of_scripted {line : Line} {action : ScriptAction}
    (hscripted : script[line.ln]? = some action) : script.actionFor? line = some action := by
  rw [Script.actionFor?, hscripted, Option.some_or]

/-- Nothing is logged on the way to a state that has a next one. -/
theorem Steps.logs_eq_nil {a b : Config} {trace : Trace} (h : Steps script story a trace b)
    (hnext : step script story b ≠ none) : Trace.logs trace = [] := by
  induction h with
  | refl => rfl
  | @next config later last event? trace hstep hlater ih =>
    cases event? with
    | none => exact ih hnext
    | some event =>
      rcases step_event hstep with ⟨line, rfl, -⟩ | ⟨line, -, rfl⟩
      · exact ih hnext
      · obtain ⟨-, rfl⟩ := hlater.of_final
        exact absurd rfl hnext

/-- The line at which an outcome arrives that leaves some activations from a line on. -/
def outermost (line : Line) : List Activation → Line
  | [] => line
  | activation :: stack => outermost activation.owner stack

/-- An outcome crosses an activation if it leaves it as the outcome of its owner. -/
def Crosses (outcome : Outcome) (activation : Activation) : Prop :=
  ∀ stack scope, Config.leaving outcome stack scope activation =
    ⟨.lineDone activation.owner outcome, stack, scope⟩

/-- A return crosses every activation. -/
theorem crosses_returned (value : Option Json) (activation : Activation) :
    Crosses (.returned value) activation := by
  intro stack scope
  cases activation <;> rfl

/-- A break crosses blocks. -/
theorem crosses_breakOut {activation : Activation} (hblock : activation.isLoop = false) :
    Crosses .breakOut activation := by
  intro stack scope
  cases activation with
  | block owner => rfl
  | loop owner passes => cases hblock

/-- A sentinel leaves the activations that it crosses without an event. -/
theorem steps_crossing {outcome : Outcome} (hsentinel : outcome.isSentinel = true) (line : Line)
    {inner : List Activation} (hcrosses : ∀ activation ∈ inner, Crosses outcome activation)
    (outer : List Activation) (scope : Scope) :
    Steps script story ⟨.lineDone line outcome, inner ++ outer, scope⟩ []
      ⟨.lineDone (outermost line inner) outcome, outer, scope⟩ := by
  induction inner generalizing line with
  | nil => exact .refl _
  | cons activation inner ih =>
    have hwalk : step script story
        ⟨.lineDone line outcome, activation :: (inner ++ outer), scope⟩ =
          some (none, ⟨.walkDone outcome, activation :: (inner ++ outer), scope⟩) := by
      cases outcome with
      | data value => cases hsentinel
      | breakOut | returned => rfl
    have hleave : step script story
        ⟨.walkDone outcome, activation :: (inner ++ outer), scope⟩ =
          some (none, ⟨.lineDone activation.owner outcome, inner ++ outer, scope⟩) := by
      rw [← hcrosses activation (List.mem_cons_self ..)]
      rfl
    have hrest := ih activation.owner
      fun other hother => hcrosses other (List.mem_cons_of_mem activation hother)
    exact .next hwalk (.next hleave hrest)

/-- A return goes through all activations and ends the run with its value. -/
theorem steps_returned (line : Line) (value : Option Json) (stack : List Activation)
    (scope : Scope) :
    Steps script story ⟨.lineDone line (.returned value), stack, scope⟩ []
      (.final (.ok value) scope) := by
  have hcross : Steps script story ⟨.lineDone line (.returned value), stack ++ [], scope⟩ []
      ⟨.lineDone (outermost line stack) (.returned value), [], scope⟩ :=
    steps_crossing rfl line (fun activation _ => crosses_returned value activation) [] scope
  rw [List.append_nil] at hcross
  exact hcross.trans (.silent rfl)

/-- A break goes through blocks and leaves the innermost loop as a loop that has run its passes. -/
theorem steps_breakOut_of_loop (line owner : Line) (passes : List (Option Json))
    {inner : List Activation} (hblocks : ∀ activation ∈ inner, activation.isLoop = false)
    (outer : List Activation) (scope : Scope) :
    Steps script story ⟨.lineDone line .breakOut, inner ++ .loop owner passes :: outer, scope⟩ []
      (.afterLoop owner outer scope) := by
  have hcross : Steps script story
      ⟨.lineDone line .breakOut, inner ++ .loop owner passes :: outer, scope⟩ []
      ⟨.lineDone (outermost line inner) .breakOut, .loop owner passes :: outer, scope⟩ :=
    steps_crossing rfl line (fun activation hmem => crosses_breakOut (hblocks activation hmem))
      (.loop owner passes :: outer) scope
  have hwalk : Steps script story
      ⟨.lineDone (outermost line inner) .breakOut, .loop owner passes :: outer, scope⟩ []
      ⟨.walkDone .breakOut, .loop owner passes :: outer, scope⟩ := .silent rfl
  have hloop : Steps script story ⟨.walkDone .breakOut, .loop owner passes :: outer, scope⟩ []
      (.afterLoop owner outer scope) := .silent rfl
  exact hcross.trans (hwalk.trans hloop)

/-- A break that no loop takes up goes through all activations and ends the run with a record. -/
theorem steps_breakOut_of_blocks (line : Line) {stack : List Activation}
    (hblocks : ∀ activation ∈ stack, activation.isLoop = false) (scope : Scope) :
    Steps script story ⟨.lineDone line .breakOut, stack, scope⟩
      [.logged (Interpreter.strayBreak (outermost line stack))] (.final (.ok none) scope) := by
  have hcross : Steps script story ⟨.lineDone line .breakOut, stack ++ [], scope⟩ []
      ⟨.lineDone (outermost line stack) .breakOut, [], scope⟩ :=
    steps_crossing rfl line (fun activation hmem => crosses_breakOut (hblocks activation hmem)) []
      scope
  rw [List.append_nil] at hcross
  exact hcross.trans (.leave rfl)

/-- Nothing follows the dispatch of a line that returns, and the run ends with the value. -/
theorem Steps.end_of_returned {a : Config} {before rest : Trace} {ln : String}
    {result : Except Stop (Option Json)} {scope : Scope}
    (h : Steps script story a (before ++ .dispatched story.name ln :: rest) (.final result scope))
    {value : Option Json} (hscripted : script[ln]? = some (.returned value)) :
    rest = [] ∧ result = .ok value := by
  obtain ⟨config, line, rfl, -, -, hrest⟩ := h.cut_dispatch
  rw [actionFor?_of_scripted hscripted] at hrest
  exact (steps_returned line value config.stack config.scope).final_unique hrest

/-- Nothing follows the dispatch of a line that fails, and the run ends with the error. -/
theorem Steps.end_of_fail {a : Config} {before rest : Trace} {ln : String}
    {result : Except Stop (Option Json)} {scope : Scope}
    (h : Steps script story a (before ++ .dispatched story.name ln :: rest) (.final result scope))
    {error : EngineError} (hscripted : script[ln]? = some (.fail error)) :
    rest = [] ∧ result = .error (.failed error) := by
  obtain ⟨config, line, rfl, -, -, hrest⟩ := h.cut_dispatch
  rw [actionFor?_of_scripted hscripted] at hrest
  have hfail : Steps script story (.final (.error (.failed error)) config.scope) []
      (.final (.error (.failed error)) config.scope) := .refl _
  exact hfail.final_unique hrest

/-- The dispatch of a line that breaks is met in a state of the machine. If a loop is active there,
the machine goes on after the innermost one; otherwise nothing but a record follows. -/
theorem Steps.after_breakOut {a : Config} {before rest : Trace} {ln : String}
    {result : Except Stop (Option Json)} {scope : Scope}
    (h : Steps script story a (before ++ .dispatched story.name ln :: rest) (.final result scope))
    (hscripted : script[ln]? = some .breakOut) : ∃ config next,
      Steps script story a before config ∧
      step script story config = some (some (.dispatched story.name ln), next) ∧
      (∀ inner owner passes outer, config.stack = inner ++ .loop owner passes :: outer →
        (∀ activation ∈ inner, activation.isLoop = false) →
        Steps script story next [] (.afterLoop owner outer config.scope) ∧
        Steps script story (.afterLoop owner outer config.scope) rest (.final result scope)) ∧
      ((∀ activation ∈ config.stack, activation.isLoop = false) → ∃ line,
        rest = [.logged (Interpreter.strayBreak line)] ∧ result = .ok none) := by
  obtain ⟨config, line, rfl, hbefore, hstep, hrest⟩ := h.cut_dispatch
  rw [actionFor?_of_scripted hscripted] at hstep hrest
  refine ⟨config, _, hbefore, hstep, ?_, ?_⟩
  · intro inner owner passes outer hstack hinner
    have hbreak : Steps script story
        ⟨.lineDone line .breakOut, inner ++ .loop owner passes :: outer, config.scope⟩ []
        (.afterLoop owner outer config.scope) :=
      steps_breakOut_of_loop line owner passes hinner outer config.scope
    rw [← hstack] at hbreak
    obtain ⟨later, rfl, hlater⟩ := hbreak.through hrest rfl
    exact ⟨hbreak, hlater⟩
  · intro hblocks
    have hbreak : Steps script story ⟨.lineDone line .breakOut, config.stack, config.scope⟩
        [.logged (Interpreter.strayBreak (outermost line config.stack))]
        (.final (.ok none) config.scope) :=
      steps_breakOut_of_blocks line hblocks config.scope
    exact ⟨outermost line config.stack, hbreak.final_unique hrest⟩

/-- Whether the dispatch of a line with an id ends the run: the script returns or fails there. -/
def EndsRunAt (script : Script) (ln : String) : Prop :=
  (∃ value, script[ln]? = some (.returned value)) ∨ ∃ error, script[ln]? = some (.fail error)

/-- The control of a machine that has met no return and no failure on a course. -/
def Control.Calm (lines : List Line) : Control → Prop
  | .goTo last pointer => (∀ value, last ≠ .returned value) ∧ PointsInto lines pointer
  | .lineDone line outcome => line ∈ lines ∧ ∀ value, outcome ≠ .returned value
  | .walkDone outcome => ∀ value, outcome ≠ .returned value
  | .halted result => result = .ok none

/-- A state in which the machine has met no return and no failure on a course. -/
structure Config.Calm (lines : List Line) (config : Config) : Prop where
  control : config.control.Calm lines
  owner_mem : ∀ activation ∈ config.stack, activation.owner ∈ lines

/-- A calm walk is left calmly. -/
theorem calm_leaveWalk {lines : List Line} {last : Outcome} {stack : List Activation}
    (hlast : ∀ value, last ≠ .returned value)
    (hstack : ∀ activation ∈ stack, activation.owner ∈ lines) (scope : Scope) :
    (leaveWalk last stack scope).Calm lines := by
  cases stack with
  | nil => exact ⟨rfl, hstack⟩
  | cons activation stack => exact ⟨hlast, hstack⟩

/-- Loops on a course go on calmly. -/
theorem calm_nextPass {lines : List Line} {owner : Line} {stack : List Activation}
    (howner : owner ∈ lines) (henter : PointsInto lines owner.enter)
    (hstack : ∀ activation ∈ stack, activation.owner ∈ lines) (scope : Scope)
    (passes : List (Option Json)) : (Config.nextPass owner stack scope passes).Calm lines := by
  cases passes with
  | nil => exact ⟨⟨howner, by simp [Outcome.nothing]⟩, hstack⟩
  | cons item? rest =>
    refine ⟨⟨by simp [Outcome.nothing], henter⟩, ?_⟩
    intro activation hactivation
    rcases List.mem_cons.mp hactivation with rfl | hbelow
    · exact howner
    · exact hstack activation hbelow

/-- A line of a course that does not end the run is performed calmly. -/
theorem calm_performing {lines : List Line} {line : Line} {stack : List Activation}
    (hline : line ∈ lines) (henter : PointsInto lines line.enter)
    (hstack : ∀ activation ∈ stack, activation.owner ∈ lines) (scope : Scope)
    (hends : ¬ EndsRunAt script line.ln) :
    (Config.performing line stack scope (script.actionFor? line)).Calm lines := by
  cases haction : script.actionFor? line with
  | none => exact ⟨⟨hline, by simp [Outcome.nothing]⟩, hstack⟩
  | some action =>
    have hscripted := Script.scripted_of_actionFor? haction
    cases action with
    | data value => exact ⟨⟨hline, by simp⟩, hstack⟩
    | breakOut => exact ⟨⟨hline, by simp⟩, hstack⟩
    | returned value => exact absurd (Or.inl ⟨value, hscripted (by simp)⟩) hends
    | fail error => exact absurd (Or.inr ⟨error, hscripted (by simp)⟩) hends
    | block =>
      refine ⟨⟨by simp [Outcome.nothing], henter⟩, ?_⟩
      intro activation hactivation
      rcases List.mem_cons.mp hactivation with rfl | hbelow
      · exact hline
      · exact hstack activation hbelow
    | forEach items => exact calm_nextPass hline henter hstack scope _
    | repeatTimes times => exact calm_nextPass hline henter hstack scope _

/-- A calm outcome leaves an activation calmly. -/
theorem calm_leaving {lines : List Line} {activation : Activation} {stack : List Activation}
    {outcome : Outcome} (hcalm : ∀ value, outcome ≠ .returned value)
    (howner : activation.owner ∈ lines) (henter : PointsInto lines activation.owner.enter)
    (hstack : ∀ activation ∈ stack, activation.owner ∈ lines) (scope : Scope) :
    (Config.leaving outcome stack scope activation).Calm lines := by
  cases activation with
  | block owner => exact ⟨⟨howner, hcalm⟩, hstack⟩
  | loop owner passes =>
    cases outcome with
    | data value => exact calm_nextPass howner henter hstack scope passes
    | breakOut => exact ⟨⟨howner, by simp [Outcome.nothing]⟩, hstack⟩
    | returned value => exact absurd rfl (hcalm value)

/-- A step from a calm state is calm, unless it hands a line to the script that ends the run. -/
theorem calm_step {lines : List Line} (hcourse : Course story.definition.tree lines) {a b : Config}
    {event? : Option Event} (ha : a.Calm lines)
    (hstep : step script story a = some (event?, b))
    (hends : ∀ ln, event? = some (.dispatched story.name ln) → ¬ EndsRunAt script ln) :
    b.Calm lines := by
  obtain ⟨hcontrol, hstack⟩ := ha
  revert hstep
  fun_cases step script story a with
  | case1 scope last stack =>
    intro hstep
    cases hstep
    exact calm_leaveWalk hcontrol.1 hstack scope
  | case2 scope last id stack error herror =>
    obtain ⟨line, -, hfound⟩ := hcourse.exists_found (hcontrol.2 id rfl)
    rw [story.line_eq_ok hfound] at herror
    cases herror
  | case3 scope last id stack line hline hbelongs =>
    intro hstep
    cases hstep
    obtain ⟨found, hmem, hfound⟩ := hcourse.exists_found (hcontrol.2 id rfl)
    rw [story.line_eq_ok hfound] at hline
    cases hline
    exact calm_performing hmem (hcourse.enter_pointsInto hmem) hstack scope (hends _ rfl)
  | case4 scope last id stack =>
    intro hstep
    cases hstep
    exact calm_leaveWalk hcontrol.1 hstack scope
  | case5 scope line value stack =>
    intro hstep
    cases hstep
    exact ⟨⟨by simp, hcourse.successor_pointsInto hcontrol.1⟩, hstack⟩
  | case6 scope line value => exact absurd rfl (hcontrol.2 value)
  | case7 scope line =>
    intro hstep
    cases hstep
    exact ⟨rfl, hstack⟩
  | case8 scope line outcome activation stack =>
    intro hstep
    cases hstep
    exact ⟨hcontrol.2, hstack⟩
  | case9 => intro hstep; cases hstep
  | case10 scope outcome activation stack =>
    intro hstep
    cases hstep
    have howner := hstack activation (List.mem_cons_self ..)
    exact calm_leaving hcontrol howner (hcourse.enter_pointsInto howner)
      (fun other hother => hstack other (List.mem_cons_of_mem activation hother)) scope
  | case11 => intro hstep; cases hstep

/-- Steps from a calm state that hand no line to the script that ends the run are calm. -/
theorem calm_steps {lines : List Line} (hcourse : Course story.definition.tree lines)
    {a b : Config} {trace : Trace} (hsteps : Steps script story a trace b) (ha : a.Calm lines)
    (hends : ∀ ln, .dispatched story.name ln ∈ trace → ¬ EndsRunAt script ln) : b.Calm lines := by
  induction hsteps with
  | refl => exact ha
  | @next config later last event? trace hstep _ ih =>
    have hlater : later.Calm lines := by
      refine calm_step hcourse ha hstep fun ln hevent => hends ln ?_
      rw [hevent]
      exact List.mem_append_left _ (List.mem_singleton.mpr rfl)
    exact ih hlater fun ln hln => hends ln (List.mem_append_right _ hln)

/-- The start of a sound story is calm. -/
theorem calm_initial {name : String} (hvalid : story.definition.validate name = .ok ())
    (scope : Scope) : (Config.initial story scope).Calm story.lines := by
  obtain ⟨-, hfirst⟩ := story.firstLine_pointsInto hvalid
  exact ⟨⟨by simp [Outcome.nothing], hfirst⟩, by simp [Config.initial]⟩

/-- Sentinels unwind as specified. A scripted run of a sound story is a run of the machine. At every
entry of its log: a return ends the run with its value, a failure with its error. A break is met in
a state of the machine whose stack holds the blocks and loops that are active. If a loop is among
them, the machine goes without an event to the state after the innermost loop, as from the end of
its last pass, and on from there; if none is, the run ends without a value and logs one warning. A
run that meets neither a return nor a failure ends without a value. -/
theorem sentinels_unwind {σ : Type} (script : Script) {story : Story} {name : String}
    (hvalid : story.definition.validate name = .ok ()) {fuel : Nat}
    (hfuel : script.fuelFor story.lines ≤ fuel) (s : RunState σ) :
    let run := (Interpreter.runStory fuel (script.dispatcher fuel) story).carryOut s
    let start := Config.initial story s.scope
    let stop := Config.final run.value run.state.scope
    Steps script story start run.trace stop ∧
    (∀ before rest ln, run.trace = before ++ .dispatched story.name ln :: rest →
      (∀ value, script[ln]? = some (.returned value) → rest = [] ∧ run.value = .ok value) ∧
      (∀ error, script[ln]? = some (.fail error) →
        rest = [] ∧ run.value = .error (.failed error)) ∧
      (script[ln]? = some .breakOut → ∃ config next,
        Steps script story start before config ∧
        step script story config = some (some (.dispatched story.name ln), next) ∧
        (∀ inner owner passes outer, config.stack = inner ++ .loop owner passes :: outer →
          (∀ activation ∈ inner, activation.isLoop = false) →
          Steps script story next [] (.afterLoop owner outer config.scope) ∧
          (∀ value, step script story ⟨.walkDone (.data value), .loop owner [] :: outer,
            config.scope⟩ = some (none, .afterLoop owner outer config.scope)) ∧
          Steps script story (.afterLoop owner outer config.scope) rest stop) ∧
        ((∀ activation ∈ config.stack, activation.isLoop = false) → ∃ line,
          rest = [.logged (Interpreter.strayBreak line)] ∧ run.value = .ok none ∧
          Trace.logs run.trace = [Interpreter.strayBreak line] ∧
          (Interpreter.strayBreak line).level = .warn))) ∧
    ((∀ ln, .dispatched story.name ln ∈ run.trace → ¬ EndsRunAt script ln) →
      run.value = .ok none) := by
  intro run start stop
  obtain ⟨-, hrun⟩ := steps_runStory script hvalid hfuel s
  refine ⟨hrun, ?_, ?_⟩
  · intro before rest ln htrace
    have hcut : Steps script story start (before ++ .dispatched story.name ln :: rest) stop := by
      rw [← htrace]
      exact hrun
    refine ⟨fun value => hcut.end_of_returned, fun error => hcut.end_of_fail, fun hscripted => ?_⟩
    obtain ⟨config, next, hbefore, hstep, hloop, hblocks⟩ := hcut.after_breakOut hscripted
    refine ⟨config, next, hbefore, hstep, ?_, ?_⟩
    · intro inner owner passes outer hstack hinner
      obtain ⟨hleave, hlater⟩ := hloop inner owner passes outer hstack hinner
      exact ⟨hleave, fun _ => rfl, hlater⟩
    · intro hstack
      obtain ⟨line, hrest, hvalue⟩ := hblocks hstack
      have hquiet : Trace.logs before = [] := hbefore.logs_eq_nil (by rw [hstep]; simp)
      refine ⟨line, hrest, hvalue, ?_, rfl⟩
      rw [htrace, hrest, Trace.logs_append, hquiet]
      rfl
  · intro hends
    obtain ⟨hcourse, -⟩ := story.firstLine_pointsInto hvalid
    have hcalm := calm_steps hcourse hrun (calm_initial hvalid s.scope) hends
    exact hcalm.control

/-- A script that repeats a block and leaves it in the first pass. -/
def leavingScript : Script :=
  .ofEntries [("1", .repeatTimes 3), ("3", .breakOut)]

/-- The run of the story with a loop under the script meets the break in the first pass; the machine
meets it too, and the run goes on after the loop. -/
theorem loopStory_break_met :
    let run := (Interpreter.runStory 9 (leavingScript.dispatcher 9) Interpreter.loopStory).carryOut
      (⟨∅, {}, ()⟩ : RunState Unit)
    Trace.dispatches run.trace =
        [("a.story", "1"), ("a.story", "2"), ("a.story", "3"), ("a.story", "4")] ∧
      run.value = .ok none ∧
      ∃ config next, Steps leavingScript Interpreter.loopStory (.initial Interpreter.loopStory ∅)
          [.dispatched "a.story" "1", .dispatched "a.story" "2"] config ∧
        step leavingScript Interpreter.loopStory config =
          some (some (.dispatched "a.story" "3"), next) := by
  have hvalid : Interpreter.loopStory.definition.validate "a.story" = .ok () := rfl
  have hfuel : leavingScript.fuelFor Interpreter.loopStory.lines ≤ 9 := by decide
  obtain ⟨-, hentries, -⟩ :=
    sentinels_unwind leavingScript hvalid hfuel (⟨∅, {}, ()⟩ : RunState Unit)
  obtain ⟨-, -, hbreak⟩ := hentries [.dispatched "a.story" "1", .dispatched "a.story" "2"]
    [.dispatched "a.story" "4"] "3" rfl
  obtain ⟨config, next, hbefore, hstep, -⟩ := hbreak rfl
  exact ⟨rfl, rfl, config, next, hbefore, hstep⟩

end StoryEngine.Machine

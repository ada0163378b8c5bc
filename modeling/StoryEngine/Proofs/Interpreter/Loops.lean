import StoryEngine.Proofs.Interpreter.Fuel

/-!
# The contract of loops

A loop goes round in laps, each with one run of the block of its owner. Before the block, a loop
over items binds its item, and a loop with a condition evaluates the condition. A lap whose block
produces data leads to the next one; a break, a return or a failure is the end of the loop. Whatever
the dispatcher does in the blocks, the loop itself does nothing else.
-/

namespace StoryEngine

variable {σ γ : Type}

/-- A lap of a loop: what comes before its block, and what the block leaves. -/
structure Lap (σ : Type) where
  before : RunState σ
  /-- What can be seen of the lap before its block. -/
  opening : Trace
  /-- The state in which the block starts. -/
  start : RunState σ
  left : Acted Event (RunState σ) (Except Stop Outcome)

/-- What can be seen of a lap. -/
def Lap.trace (lap : Lap σ) : Trace :=
  lap.opening ++ lap.left.trace

/-- What can be seen of some laps. -/
def Lap.traceOf (laps : List (Lap σ)) : Trace :=
  laps.flatMap Lap.trace

/-- The state after some laps. -/
def Lap.stateAfter (s : RunState σ) (laps : List (Lap σ)) : RunState σ :=
  laps.getLast?.elim s fun lap => lap.left.state

/-- Whether a block that leaves this lets its loop go on. -/
def GoesOn (value : Except Stop Outcome) : Prop :=
  ∃ data, value = .ok (.data data)

/-- What the loop ends with if its block ends it. -/
inductive EndsLoop : Except Stop Outcome → Except Stop Outcome → Prop
  /-- A break ends the loop around it, and no loop beyond. -/
  | broke : EndsLoop (.ok .breakOut) (.ok .nothing)
  /-- A return is passed on. -/
  | returned (value : Option Json) : EndsLoop (.ok (.returned value)) (.ok (.returned value))
  /-- So is what stopped the block. -/
  | stopped (stop : Stop) : EndsLoop (.error stop) (.error stop)

/-- The laps of a loop over a block, from a state on. -/
structure Laps (block : Run (RunState σ) Outcome) (s : RunState σ) (laps : List (Lap σ)) :
    Prop where
  /-- Each lap begins where the one before it ended. -/
  follow : ∀ earlier lap later, laps = earlier ++ lap :: later →
    lap.before = Lap.stateAfter s earlier
  /-- Each lap runs the block. -/
  ran : ∀ lap ∈ laps, lap.left = block.carryOut lap.start

/-- A lap of a loop over items. -/
structure ItemLap (σ : Type) extends Lap σ where
  item : Json

/-- What the binding of an item does: it sets the first output of the owner, if there is one, and
changes nothing else. -/
structure Binds (owner : Line) (item : Json) (before start : RunState σ) : Prop where
  first : ∀ name, owner.firstOutput = some name → start.scope.read name = some item
  others : ∀ name, owner.firstOutput ≠ some name →
    start.scope.read name = before.scope.read name
  registry : start.registry = before.registry
  client : start.client = before.client

/-- How a loop over items ends. -/
inductive EndsOver (items : List Json) : List (ItemLap σ) → Except Stop Outcome → Prop
  /-- There are no more items. -/
  | exhausted {laps : List (ItemLap σ)} (hitems : laps.map ItemLap.item = items)
      (hon : ∀ lap ∈ laps, GoesOn lap.left.value) : EndsOver items laps (.ok .nothing)
  /-- The block ends it. -/
  | ended (earlier : List (ItemLap σ)) {last : ItemLap σ} {value : Except Stop Outcome}
      (hon : ∀ lap ∈ earlier, GoesOn lap.left.value) (hends : EndsLoop last.left.value value) :
      EndsOver items (earlier ++ [last]) value

/-- A loop over items, in terms of its laps. -/
structure LoopsOver (block : Run (RunState σ) Outcome) (owner : Line) (items : List Json)
    (s : RunState σ) (laps : List (ItemLap σ))
    (left : Acted Event (RunState σ) (Except Stop Outcome)) : Prop where
  chained : Laps block s (laps.map ItemLap.toLap)
  /-- There is one lap for each item, in order, until the loop ends. -/
  inOrder : laps.map ItemLap.item <+: items
  /-- The item is bound right before the block, and nothing else happens before it. -/
  bound : ∀ lap ∈ laps, lap.opening = [] ∧ Binds owner lap.item lap.before lap.start
  state : left.state = Lap.stateAfter s (laps.map ItemLap.toLap)
  trace : left.trace = Lap.traceOf (laps.map ItemLap.toLap)
  value : EndsOver items laps left.value

/-- A lap of a loop with a condition. -/
structure TestedLap (σ γ : Type) extends Lap σ where
  /-- What the condition remembers when it is evaluated. -/
  memory : γ
  /-- What it remembers then. -/
  next : γ

/-- What a condition remembers after some laps. -/
def TestedLap.memoryAfter (memory : γ) (laps : List (TestedLap σ γ)) : γ :=
  laps.getLast?.elim memory TestedLap.next

/-- How a loop with a condition ends that has fuel for some tests, and what it leaves. -/
inductive EndsWhile (condition : Interpreter.Condition σ γ) (fuel : Nat) (memory : γ)
    (s : RunState σ) :
    List (TestedLap σ γ) → Acted Event (RunState σ) (Except Stop Outcome) → Prop
  /-- The condition does not hold. -/
  | unmet {laps : List (TestedLap σ γ)} (next : γ) {state : RunState σ} {closing : Trace}
      (hon : ∀ lap ∈ laps, GoesOn lap.left.value)
      (htest : (condition (TestedLap.memoryAfter memory laps)).carryOut
        (Lap.stateAfter s (laps.map TestedLap.toLap)) = ⟨.ok (false, next), state, closing⟩) :
      EndsWhile condition fuel memory s laps
        ⟨.ok .nothing, state, Lap.traceOf (laps.map TestedLap.toLap) ++ closing⟩
  /-- The condition fails. -/
  | failed {laps : List (TestedLap σ γ)} {stop : Stop} {state : RunState σ} {closing : Trace}
      (hon : ∀ lap ∈ laps, GoesOn lap.left.value)
      (htest : (condition (TestedLap.memoryAfter memory laps)).carryOut
        (Lap.stateAfter s (laps.map TestedLap.toLap)) = ⟨.error stop, state, closing⟩) :
      EndsWhile condition fuel memory s laps
        ⟨.error stop, state, Lap.traceOf (laps.map TestedLap.toLap) ++ closing⟩
  /-- The block ends it, and the condition is not evaluated again. -/
  | ended (earlier : List (TestedLap σ γ)) {last : TestedLap σ γ} {value : Except Stop Outcome}
      (hon : ∀ lap ∈ earlier, GoesOn lap.left.value) (hends : EndsLoop last.left.value value) :
      EndsWhile condition fuel memory s (earlier ++ [last])
        ⟨value, last.left.state, Lap.traceOf ((earlier ++ [last]).map TestedLap.toLap)⟩
  /-- The fuel is used up. -/
  | spent {laps : List (TestedLap σ γ)} (hon : ∀ lap ∈ laps, GoesOn lap.left.value)
      (hlength : laps.length = fuel) :
      EndsWhile condition fuel memory s laps
        ⟨.error .outOfFuel, Lap.stateAfter s (laps.map TestedLap.toLap),
          Lap.traceOf (laps.map TestedLap.toLap)⟩

/-- A loop with a condition, in terms of its laps. -/
structure LoopsWhile (block : Run (RunState σ) Outcome) (condition : Interpreter.Condition σ γ)
    (fuel : Nat) (memory : γ) (s : RunState σ) (laps : List (TestedLap σ γ))
    (left : Acted Event (RunState σ) (Except Stop Outcome)) : Prop where
  chained : Laps block s (laps.map TestedLap.toLap)
  /-- The condition remembers what it left in the lap before. -/
  remembered : ∀ earlier lap later, laps = earlier ++ lap :: later →
    lap.memory = TestedLap.memoryAfter memory earlier
  /-- The condition is evaluated once before each block, where it holds. -/
  tested : ∀ lap ∈ laps, (condition lap.memory).carryOut lap.before =
    ⟨.ok (true, lap.next), lap.start, lap.opening⟩
  left : EndsWhile condition fuel memory s laps left

/-- Every outcome of a block lets its loop go on or ends it. -/
theorem goesOn_or_ends (value : Except Stop Outcome) : GoesOn value ∨ ∃ last, EndsLoop value last := by
  rcases value with stop | data | _ | value
  · exact .inr ⟨_, .stopped stop⟩
  · exact .inl ⟨data, rfl⟩
  · exact .inr ⟨_, .broke⟩
  · exact .inr ⟨_, .returned value⟩

namespace Lap

/-- One lap more in front leaves a loop where it and the others lead. -/
theorem stateAfter_cons (s : RunState σ) (lap : Lap σ) (later : List (Lap σ)) :
    stateAfter s (lap :: later) = stateAfter lap.left.state later := by
  rw [stateAfter, stateAfter, List.getLast?_cons]
  cases later.getLast? <;> rfl

end Lap

section

variable {α : Type} {P : List α → α → Prop}

/-- Of no laps, everything holds of each one and those before it. -/
theorem forall_split_nil : ∀ earlier lap later, [] = earlier ++ lap :: later → P earlier lap :=
  fun earlier lap later hsplit =>
    absurd hsplit.symm (List.append_ne_nil_of_right_ne_nil earlier (List.cons_ne_nil lap later))

/-- What holds of the first lap, and of each later one and those before it, holds of each lap and
those before it. -/
theorem forall_split_cons {first : α} {laps : List α} (hfirst : P [] first)
    (hlater : ∀ earlier lap later, laps = earlier ++ lap :: later → P (first :: earlier) lap) :
    ∀ earlier lap later, first :: laps = earlier ++ lap :: later → P earlier lap := by
  intro earlier lap later hsplit
  cases earlier with
  | nil =>
    cases hsplit
    exact hfirst
  | cons other earlier =>
    obtain ⟨rfl, htail⟩ := List.cons.inj hsplit
    exact hlater earlier lap later htail

end

/-- No laps are laps of every loop. -/
theorem laps_nil (block : Run (RunState σ) Outcome) (s : RunState σ) : Laps block s [] where
  follow := forall_split_nil
  ran := List.forall_mem_nil _

/-- A lap and the laps from its end on are the laps from its beginning on. -/
theorem Laps.cons {block : Run (RunState σ) Outcome} {lap : Lap σ} {later : List (Lap σ)}
    (h : Laps block lap.left.state later) (hran : lap.left = block.carryOut lap.start) :
    Laps block lap.before (lap :: later) where
  follow := by
    refine forall_split_cons rfl fun earlier other rest hsplit => ?_
    rw [Lap.stateAfter_cons]
    exact h.follow earlier other rest hsplit
  ran := List.forall_mem_cons.mpr ⟨hran, h.ran⟩

/-- Whether a loop may have this for its value: nothing, what a block returned, or what stopped a
block or the condition. -/
def IsLoopValue (value : Except Stop Outcome) : Prop :=
  value = .ok .nothing ∨ (∃ returned, value = .ok (.returned returned)) ∨
    ∃ stop, value = .error stop

/-- A block ends its loop with no data of its own, and with no break. -/
theorem EndsLoop.isLoopValue {value last : Except Stop Outcome} (h : EndsLoop value last) :
    IsLoopValue last := by
  cases h with
  | broke => exact .inl rfl
  | returned value => exact .inr (.inl ⟨value, rfl⟩)
  | stopped stop => exact .inr (.inr ⟨stop, rfl⟩)

namespace LoopsOver

variable {block : Run (RunState σ) Outcome} {owner : Line} {items : List Json} {s : RunState σ}
  {lap : ItemLap σ} {later : List (ItemLap σ)}
  {left : Acted Event (RunState σ) (Except Stop Outcome)}

/-- A lap in front of a loop over items is the lap of an item before them. -/
theorem cons (h : LoopsOver block owner items lap.left.state later left)
    (hran : lap.left = block.carryOut lap.start)
    (hbound : lap.opening = [] ∧ Binds owner lap.item lap.before lap.start)
    (hon : GoesOn lap.left.value) :
    LoopsOver block owner (lap.item :: items) lap.before (lap :: later)
      ⟨left.value, left.state, lap.left.trace ++ left.trace⟩ := by
  constructor
  case chained => exact h.chained.cons hran
  case inOrder => exact List.prefix_cons_inj lap.item |>.mpr h.inOrder
  case bound => exact List.forall_mem_cons.mpr ⟨hbound, h.bound⟩
  case state =>
    rw [List.map_cons, Lap.stateAfter_cons]
    exact h.state
  case trace =>
    rw [h.trace, List.map_cons, Lap.traceOf, Lap.traceOf, List.flatMap_cons, Lap.trace, hbound.1,
      List.nil_append]
  case value =>
    show EndsOver (lap.item :: items) (lap :: later) left.value
    have hvalue := h.value
    generalize left.value = value at hvalue ⊢
    cases hvalue with
    | exhausted hitems hlater =>
      refine .exhausted ?_ (List.forall_mem_cons.mpr ⟨hon, hlater⟩)
      rw [List.map_cons, hitems]
    | ended earlier hearlier hends =>
      exact .ended (lap :: earlier) (List.forall_mem_cons.mpr ⟨hon, hearlier⟩) hends

/-- A lap that ends a loop over items is the only one from there on. -/
theorem last {value : Except Stop Outcome} (hran : lap.left = block.carryOut lap.start)
    (hbound : lap.opening = [] ∧ Binds owner lap.item lap.before lap.start)
    (hends : EndsLoop lap.left.value value) :
    LoopsOver block owner (lap.item :: items) lap.before [lap]
      ⟨value, lap.left.state, lap.left.trace⟩ := by
  constructor
  case chained => exact (laps_nil block lap.left.state).cons hran
  case inOrder => exact List.prefix_cons_inj lap.item |>.mpr (List.nil_prefix)
  case bound => exact List.forall_mem_singleton.mpr hbound
  case state => rfl
  case trace =>
    rw [List.map_singleton, Lap.traceOf, List.flatMap_singleton, Lap.trace, hbound.1,
      List.nil_append]
  case value => exact .ended [] (List.forall_mem_nil _) hends

/-- A loop over items yields no data of a block, and no break. -/
theorem isLoopValue (h : LoopsOver block owner items s later left) : IsLoopValue left.value := by
  have hvalue := h.value
  generalize left.value = value at hvalue ⊢
  cases hvalue with
  | exhausted => exact .inl rfl
  | ended _ _ hends => exact hends.isLoopValue

end LoopsOver

/-- One lap more in front leaves its condition what it and the others leave. -/
theorem TestedLap.memoryAfter_cons (memory : γ) (lap : TestedLap σ γ)
    (later : List (TestedLap σ γ)) :
    memoryAfter memory (lap :: later) = memoryAfter lap.next later := by
  rw [memoryAfter, memoryAfter, List.getLast?_cons]
  cases later.getLast? <;> rfl

namespace LoopsWhile

variable {block : Run (RunState σ) Outcome} {condition : Interpreter.Condition σ γ} {fuel : Nat}
  {memory : γ} {s : RunState σ} {lap : TestedLap σ γ} {later : List (TestedLap σ γ)}
  {left : Acted Event (RunState σ) (Except Stop Outcome)}

/-- A loop whose condition does not hold at first has no lap. -/
theorem none (hleft : EndsWhile condition fuel memory s [] left) :
    LoopsWhile block condition fuel memory s [] left where
  chained := laps_nil block s
  remembered := forall_split_nil
  tested := List.forall_mem_nil _
  left := hleft

/-- A lap in front of a loop with a condition takes one more test. -/
theorem cons (h : LoopsWhile block condition fuel lap.next lap.left.state later left)
    (htest : (condition lap.memory).carryOut lap.before =
      ⟨.ok (true, lap.next), lap.start, lap.opening⟩)
    (hran : lap.left = block.carryOut lap.start) (hon : GoesOn lap.left.value) :
    LoopsWhile block condition (fuel + 1) lap.memory lap.before (lap :: later)
      ⟨left.value, left.state, lap.trace ++ left.trace⟩ := by
  constructor
  case chained => exact h.chained.cons hran
  case remembered =>
    refine forall_split_cons rfl fun earlier other rest hsplit => ?_
    rw [TestedLap.memoryAfter_cons]
    exact h.remembered earlier other rest hsplit
  case tested => exact List.forall_mem_cons.mpr ⟨htest, h.tested⟩
  case left =>
    have hmemory := TestedLap.memoryAfter_cons lap.memory lap
    have hstate := Lap.stateAfter_cons lap.before lap.toLap
    cases h.left with
    | unmet next hlater hclosing =>
      rw [← List.append_assoc]
      refine .unmet next (List.forall_mem_cons.mpr ⟨hon, hlater⟩) ?_
      rw [hmemory, List.map_cons, hstate]
      exact hclosing
    | failed hlater hclosing =>
      rw [← List.append_assoc]
      refine .failed (List.forall_mem_cons.mpr ⟨hon, hlater⟩) ?_
      rw [hmemory, List.map_cons, hstate]
      exact hclosing
    | ended earlier hearlier hends =>
      exact .ended (lap :: earlier) (List.forall_mem_cons.mpr ⟨hon, hearlier⟩) hends
    | spent hlater hlength =>
      rw [← hstate]
      refine .spent (List.forall_mem_cons.mpr ⟨hon, hlater⟩) ?_
      rw [List.length_cons, hlength]

/-- A lap that ends a loop with a condition is the only one from there on. -/
theorem last {value : Except Stop Outcome} (hran : lap.left = block.carryOut lap.start)
    (htest : (condition lap.memory).carryOut lap.before =
      ⟨.ok (true, lap.next), lap.start, lap.opening⟩)
    (hends : EndsLoop lap.left.value value) :
    LoopsWhile block condition fuel lap.memory lap.before [lap]
      ⟨value, lap.left.state, lap.trace⟩ := by
  constructor
  case chained => exact (laps_nil block lap.left.state).cons hran
  case remembered => exact forall_split_cons rfl forall_split_nil
  case tested => exact List.forall_mem_singleton.mpr htest
  case left =>
    have htrace : Lap.traceOf [lap.toLap] = lap.trace := List.flatMap_singleton _ _
    rw [← htrace]
    exact .ended [] (List.forall_mem_nil _) hends

/-- A loop with a condition yields no data of a block, and no break. -/
theorem isLoopValue (h : LoopsWhile block condition fuel memory s later left) :
    IsLoopValue left.value := by
  cases h.left with
  | unmet => exact .inl rfl
  | failed => exact .inr (.inr ⟨_, rfl⟩)
  | ended _ _ hends => exact hends.isLoopValue
  | spent => exact .inr (.inr ⟨_, rfl⟩)

end LoopsWhile

namespace Interpreter

/-- Runs a block and goes on unless it ends the loop. -/
def lapThen (block rest : Run (RunState σ) Outcome) : Run (RunState σ) Outcome := do
  match loopEnd? (← block) with
  | some outcome => pure outcome
  | none => rest

section

variable {block rest : Run (RunState σ) Outcome} {lap : Lap σ}

/-- A lap that lets its loop go on is followed by the rest of the loop. -/
theorem carryOut_lapThen_of_goesOn (hran : lap.left = block.carryOut lap.start)
    (hon : GoesOn lap.left.value) :
    (lapThen block rest).carryOut lap.start =
      ⟨(rest.carryOut lap.left.state).value, (rest.carryOut lap.left.state).state,
        lap.left.trace ++ (rest.carryOut lap.left.state).trace⟩ := by
  obtain ⟨data, hdata⟩ := hon
  rw [lapThen, Run.carryOut_bind, ← hran, hdata]
  rfl

/-- A lap that ends its loop is followed by nothing. -/
theorem carryOut_lapThen_of_ends {value : Except Stop Outcome}
    (hran : lap.left = block.carryOut lap.start) (hends : EndsLoop lap.left.value value) :
    (lapThen block rest).carryOut lap.start = ⟨value, lap.left.state, lap.left.trace⟩ := by
  rw [lapThen, Run.carryOut_bind, ← hran]
  generalize lap.left = left at hends ⊢
  obtain ⟨leftValue, state, trace⟩ := left
  cases hends with
  | broke | returned => simp [loopEnd?]
  | stopped => rfl

end

/-- The start of a pass sets the first output of the owner. -/
theorem binds_passScope (owner : Line) (item : Json) (s : RunState σ) :
    Binds owner item s { s with scope := passScope owner (some item) s.scope } := by
  have hread (name : String) : (passScope owner (some item) s.scope).read name =
      if owner.firstOutput = some name then some item else s.scope.read name := by
    unfold passScope Line.firstOutput
    cases owner.output with
    | none => rfl
    | some names =>
      cases names with
      | nil => rfl
      | cons first _ =>
        simp only [Scope.read, Std.ExtTreeMap.getElem?_insert, Std.LawfulEqCmp.compare_eq_iff_eq,
          Option.bind_some, List.head?_cons, Option.some.injEq]
  constructor
  case first =>
    intro name hname
    rw [hread, if_pos hname]
  case others =>
    intro name hname
    rw [hread, if_neg hname]
  case registry => rfl
  case client => rfl

/-- The lap of an item. -/
def itemLap (block : Run (RunState σ) Outcome) (owner : Line) (item : Json) (s : RunState σ) :
    ItemLap σ where
  item := item
  before := s
  opening := []
  start := { s with scope := passScope owner (some item) s.scope }
  left := block.carryOut { s with scope := passScope owner (some item) s.scope }

/-- A loop over items begins with the lap of the first one. -/
theorem carryOut_forEach_cons (fuel : Nat) (dispatcher : Dispatcher σ) (story : Story)
    (owner : Line) (item : Json) (items : List Json) (s : RunState σ) :
    let block := executeBlock fuel dispatcher story owner
    (forEach fuel dispatcher story owner (item :: items)).carryOut s =
      (lapThen block (forEach fuel dispatcher story owner items)).carryOut
        (itemLap block owner item s).start := by
  intro block
  have hfirst : forEach fuel dispatcher story owner (item :: items) =
      bindPass owner (some item) >>= fun _ =>
        lapThen block (forEach fuel dispatcher story owner items) := by
    rw [forEach, bindItem_eq_bindPass]
    rfl
  rw [hfirst, Run.carryOut_bind, carryOut_bindPass]
  simp only [List.nil_append]
  rfl

/-- A loop over items goes round in laps. -/
theorem exists_loopsOver (fuel : Nat) (dispatcher : Dispatcher σ) (story : Story) (owner : Line)
    (items : List Json) (s : RunState σ) :
    ∃ laps, LoopsOver (executeBlock fuel dispatcher story owner) owner items s laps
      ((forEach fuel dispatcher story owner items).carryOut s) := by
  induction items generalizing s with
  | nil =>
    exact ⟨[], laps_nil _ s, List.prefix_refl [], List.forall_mem_nil _, rfl, rfl,
      .exhausted rfl (List.forall_mem_nil _)⟩
  | cons item items ih =>
    rw [carryOut_forEach_cons]
    generalize hlap : itemLap (executeBlock fuel dispatcher story owner) owner item s = lap
    have hitem : lap.item = item := by rw [← hlap]; rfl
    have hbefore : lap.before = s := by rw [← hlap]; rfl
    have hran : lap.left = (executeBlock fuel dispatcher story owner).carryOut lap.start := by
      rw [← hlap]
      rfl
    have hbound : lap.opening = [] ∧ Binds owner lap.item lap.before lap.start := by
      rw [← hlap]
      exact ⟨rfl, binds_passScope owner item s⟩
    rw [← hitem, ← hbefore]
    rcases goesOn_or_ends lap.left.value with hon | ⟨value, hends⟩
    · obtain ⟨later, h⟩ := ih lap.left.state
      rw [carryOut_lapThen_of_goesOn hran hon]
      exact ⟨lap :: later, h.cons hran hbound hon⟩
    · rw [carryOut_lapThen_of_ends hran hends]
      exact ⟨[lap], .last hran hbound hends⟩

/-- A loop with a condition goes round in laps. -/
theorem exists_loopsWhile (block : Run (RunState σ) Outcome) (condition : Condition σ γ)
    (fuel : Nat) (memory : γ) (s : RunState σ) :
    ∃ laps, LoopsWhile block condition fuel memory s laps
      ((passesWhile block condition fuel memory).carryOut s) := by
  induction fuel generalizing memory s with
  | zero => exact ⟨[], .none (.spent (List.forall_mem_nil _) rfl)⟩
  | succ fuel ih =>
    rw [passesWhile, Run.carryOut_bind]
    generalize htest : (condition memory).carryOut s = test
    obtain ⟨stop | ⟨holds, next⟩, start, opening⟩ := test
    · exact ⟨[], .none (.failed (List.forall_mem_nil _) htest)⟩
    · cases holds with
      | false =>
        simp only [Bool.false_eq_true, if_false, Run.carryOut_pure, List.append_nil]
        exact ⟨[], .none (.unmet next (List.forall_mem_nil _) htest)⟩
      | true =>
        let lap : TestedLap σ γ :=
          { before := s, opening, start, left := block.carryOut start, memory, next }
        show ∃ laps, LoopsWhile block condition (fuel + 1) lap.memory lap.before laps
          ⟨((lapThen block (passesWhile block condition fuel next)).carryOut lap.start).value,
            ((lapThen block (passesWhile block condition fuel next)).carryOut lap.start).state,
            lap.opening ++
              ((lapThen block (passesWhile block condition fuel next)).carryOut lap.start).trace⟩
        rcases goesOn_or_ends lap.left.value with hon | ⟨value, hends⟩
        · obtain ⟨later, h⟩ := ih lap.next lap.left.state
          rw [carryOut_lapThen_of_goesOn rfl hon, ← List.append_assoc]
          exact ⟨lap :: later, h.cons htest rfl hon⟩
        · rw [carryOut_lapThen_of_ends rfl hends]
          exact ⟨[lap], .last rfl htest hends⟩

end Interpreter

/-- Whatever the dispatcher does, a loop over items and a loop with a condition go round in laps:
they run the block of their owner once for each item, or each time that the condition holds, bind the
item or evaluate the condition right before the block, go on from a block that produces data, and end
with the first that does not. Nothing else is done between the blocks. What they leave without
having used their fuel up, they leave with more fuel too. -/
theorem loops_keep_contract (fuel : Nat) (dispatcher : Dispatcher σ) (story : Story) (owner : Line)
    (s : RunState σ) :
    let block := Interpreter.executeBlock fuel dispatcher story owner
    (∀ items : List Json,
      let left := (Interpreter.forEach fuel dispatcher story owner items).carryOut s
      (∃ laps, LoopsOver block owner items s laps left) ∧ IsLoopValue left.value ∧
        (left.value ≠ .error .outOfFuel → ∀ more,
          (Interpreter.forEach (fuel + more) dispatcher story owner items).carryOut s = left)) ∧
    ∀ (γ : Type) (condition : Interpreter.Condition σ γ) (memory : γ),
      let left := (Interpreter.loopWhile fuel dispatcher story owner condition memory).carryOut s
      (∃ laps, LoopsWhile block condition fuel memory s laps left) ∧ IsLoopValue left.value ∧
        (left.value ≠ .error .outOfFuel → ∀ more,
          (Interpreter.loopWhile (fuel + more) dispatcher story owner condition memory).carryOut s =
            left) := by
  intro block
  constructor
  · intro items left
    obtain ⟨laps, hlaps⟩ := Interpreter.exists_loopsOver fuel dispatcher story owner items s
    refine ⟨⟨laps, hlaps⟩, hlaps.isLoopValue, fun henough more => ?_⟩
    exact Prolongs.forEach dispatcher story owner fuel more items s henough
  · intro γ condition memory left
    obtain ⟨laps, hlaps⟩ := Interpreter.exists_loopsWhile block condition fuel memory s
    refine ⟨⟨laps, hlaps⟩, hlaps.isLoopValue, fun henough more => ?_⟩
    exact Prolongs.loopWhile dispatcher story owner fuel more condition memory s henough

/-- A line with a loop over items. -/
def itemsLine : Line :=
  { ln := "1", method := .forLoop, next := some "2", enter := some "2", exit := some "3"
    output := some ["item"] }

/-- A story with one line in a loop. -/
def itemsStory : Story :=
  .ofLines [
    itemsLine,
    { ln := "2", method := .set, next := some "3", parent := some "1" },
    { ln := "3", method := .set }]

/-- A dispatcher that breaks at the number two, and binds the item itself otherwise. -/
def rebindingDispatcher : Dispatcher Unit := fun _ _ => do
  match ← Interpreter.readVariable "item" with
  | some (.int 2) => pure .breakOut
  | _ =>
    Interpreter.bindVariable "item" .null
    pure (.data (some .null))

/-- The second item is bound although the block has bound the name of the first one, and the third
item is neither bound nor seen by the block. -/
theorem second_item_ends_loop :
    let s : RunState Unit := ⟨∅, {}, ()⟩
    let left := (Interpreter.forEach 4 rebindingDispatcher itemsStory itemsLine
      [.int 1, .int 2, .int 3]).carryOut s
    left.value = .ok .nothing ∧ left.state.scope.read "item" = some (.int 2) ∧
      Trace.dispatches left.trace = [("a.story", "2"), ("a.story", "2")] ∧
      ∃ laps, LoopsOver (Interpreter.executeBlock 4 rebindingDispatcher itemsStory itemsLine)
        itemsLine [.int 1, .int 2, .int 3] s laps left := by
  intro s left
  obtain ⟨hover, -⟩ := loops_keep_contract 4 rebindingDispatcher itemsStory itemsLine s
  exact ⟨rfl, rfl, rfl, (hover [.int 1, .int 2, .int 3]).1⟩

end StoryEngine

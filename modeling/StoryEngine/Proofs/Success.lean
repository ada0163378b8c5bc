/-!
# Success of a check

A check that goes through several stages succeeds when each of them does. These laws open a
successful check stage by stage.
-/

namespace StoryEngine

variable {ε δ α β γ : Type}

/-- Putting an error into other words does not change when there is one. -/
theorem mapError_eq_ok {result : Except ε α} {f : ε → δ} {value : α} :
    result.mapError f = .ok value ↔ result = .ok value := by
  constructor
  · intro h
    cases result <;> cases h
    rfl
  · rintro rfl
    rfl

/-- Two stages succeed when the first does and the second does with its value. -/
theorem bind_eq_ok {result : Except ε α} {next : α → Except ε β} {value : β} :
    (result >>= next) = .ok value ↔ ∃ first, result = .ok first ∧ next first = .ok value := by
  cases result with
  | error error => simp [Bind.bind, Except.bind]
  | ok first => simp [Bind.bind, Except.bind]

/-- A check followed by another stage succeeds when both do. -/
theorem bind_unit_eq_ok {check : Except ε Unit} {next : Except ε α} {value : α} :
    (check >>= fun _ => next) = .ok value ↔ check = .ok () ∧ next = .ok value := by
  rw [bind_eq_ok]
  constructor
  · rintro ⟨_, hcheck, hnext⟩
    exact ⟨hcheck, hnext⟩
  · rintro ⟨hcheck, hnext⟩
    exact ⟨(), hcheck, hnext⟩

/-- A function of a result has a value when the result has. -/
theorem map_eq_ok {result : Except ε α} {f : α → β} {value : β} :
    result.map f = .ok value ↔ ∃ first, result = .ok first ∧ f first = value := by
  cases result with
  | error error => simp [Except.map]
  | ok first => simp [Except.map]

/-- Stages that each succeed with a value that is known succeed together with these values. -/
theorem mapM_map_eq_ok {stage : β → Except ε γ} {input : α → β} {value : α → γ} {items : List α}
    (hstage : ∀ item ∈ items, stage (input item) = .ok (value item)) :
    (items.map input).mapM stage = .ok (items.map value) := by
  induction items with
  | nil => rfl
  | cons item rest ih =>
    rw [List.map_cons, List.mapM_cons, hstage item (List.mem_cons_self ..),
      ih fun other hother => hstage other (List.mem_cons_of_mem _ hother)]
    rfl

end StoryEngine

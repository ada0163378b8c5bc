/-!
# What lasts in a history

A step of a history lasts if every later step spares what it has left. Of the writes to a place it
is the last one that lasts.
-/

namespace StoryEngine

variable {α : Type} {spares : α → Prop} {history : List α} {step last : α}

/-- Whether a step of a history is spared by all steps after it. -/
def Lasts (spares : α → Prop) (history : List α) (step : α) : Prop :=
  ∃ earlier later, history = earlier ++ step :: later ∧ ∀ other ∈ later, spares other

/-- Nothing lasts before the first step. -/
theorem not_lasts_nil : ¬ Lasts spares [] step := by
  rintro ⟨earlier, later, hsplit, -⟩
  exact List.append_ne_nil_of_right_ne_nil earlier (List.cons_ne_nil _ _) hsplit.symm

/-- The last step lasts, and with it what it spares and what lasted before. -/
theorem lasts_concat :
    Lasts spares (history ++ [last]) step ↔
      last = step ∨ spares last ∧ Lasts spares history step := by
  constructor
  · rintro ⟨earlier, later, hsplit, hlater⟩
    rcases List.eq_nil_or_concat later with rfl | ⟨between, latest, rfl⟩
    · obtain ⟨-, hlast⟩ := List.append_inj' hsplit rfl
      exact .inl (List.singleton_inj.mp hlast)
    · rw [List.concat_eq_append] at hsplit hlater
      have hsplit' : history ++ [last] = (earlier ++ step :: between) ++ [latest] := by
        rw [hsplit, List.append_assoc, List.cons_append]
      obtain ⟨hhistory, hlast⟩ := List.append_inj' hsplit' rfl
      obtain rfl := List.singleton_inj.mp hlast
      refine .inr ⟨hlater last (List.mem_append_right _ (List.mem_singleton_self _)), ?_⟩
      exact ⟨earlier, between, hhistory, fun other hother =>
        hlater other (List.mem_append_left _ hother)⟩
  · rintro (rfl | ⟨hlast, earlier, later, rfl, hlater⟩)
    · exact ⟨history, [], rfl, List.forall_mem_nil _⟩
    · refine ⟨earlier, later ++ [last], by rw [List.append_assoc, List.cons_append], ?_⟩
      exact List.forall_mem_append.mpr ⟨hlater, List.forall_mem_singleton.mpr hlast⟩

end StoryEngine

import StoryEngine.Proofs.Story.Course

/-!
# How often a line is run

A walk meets a line, then the successor of that line, and so on, as long as the lines belong to it:
the walk of a story takes every line, the walk of a block those whose parent owns the block. If
every block is run once, a line is run once for each walk that meets it. On a course only the walk
of the story itself can meet a line that the walk of a block meets too.
-/

namespace StoryEngine

/-- Whether a line says that it belongs to the block of an owner. -/
def Line.owns (owner line : Line) : Bool :=
  line.parent = some owner.ln

namespace Story

/-- A walk from a pointer along successors meets a line, through lines that belong to the walk. -/
inductive Meets (story : Story) (belongs : Line → Bool) : Option String → Line → Prop
  | here {id : String} {line : Line} : story.line id = .ok line → belongs line = true →
      Meets story belongs (some id) line
  | later {id : String} {line last : Line} : story.line id = .ok line → belongs line = true →
      Meets story belongs line.successor last → Meets story belongs (some id) last

/-- The walk of the story itself meets a line. -/
def OnTopLevel (story : Story) (line : Line) : Prop :=
  story.Meets (fun _ => true) story.firstLine line

/-- The walk of the block of an owner meets a line. -/
def InBlockOf (story : Story) (owner line : Line) : Prop :=
  story.Meets owner.owns owner.enter line

/-- A line is run when the story is, each block once. -/
inductive Runs (story : Story) : Line → Prop
  | onTopLevel {line : Line} : story.OnTopLevel line → Runs story line
  | inBlock {owner line : Line} : Runs story owner → story.InBlockOf owner line → Runs story line

end Story

/-- The lines that a walk along a course runs, in order, if every block is run once. -/
def onceThrough (belongs : Line → Bool) : List Line → Option String → List Line
  | [], _ => []
  | _ :: _, none => []
  | line :: later, some id =>
    if line.ln ≠ id then
      onceThrough belongs later (some id)
    else if belongs line then
      line :: (onceThrough line.owns later line.enter ++ onceThrough belongs later line.successor)
    else
      []

variable {story : Story} {lines : List Line} {belongs : Line → Bool} {pointer : Option String}

/-- A walk meets lines that belong to it only. -/
theorem Story.Meets.belongs_eq {line : Line} (h : story.Meets belongs pointer line) :
    belongs line = true := by
  induction h with
  | here _ hbelongs => exact hbelongs
  | later _ _ _ ih => exact ih

/-- A line of a block has the owner of the block as its parent. -/
theorem Story.InBlockOf.parent_eq {owner line : Line} (h : story.InBlockOf owner line) :
    line.parent = some owner.ln := by
  have hbelongs := Story.Meets.belongs_eq h
  simpa [Line.owns] using hbelongs

/-- A walk from a line that is found meets that line and what it meets from the successor on. -/
theorem Story.meets_some_iff {id : String} {line other : Line} (hline : story.line id = .ok line) :
    story.Meets belongs (some id) other ↔
      belongs line = true ∧ (line = other ∨ story.Meets belongs line.successor other) := by
  constructor
  · intro h
    cases h with
    | here hfound hbelongs =>
      rw [hline] at hfound
      cases hfound
      exact ⟨hbelongs, Or.inl rfl⟩
    | later hfound hbelongs hrest =>
      rw [hline] at hfound
      cases hfound
      exact ⟨hbelongs, Or.inr hrest⟩
  · rintro ⟨hbelongs, rfl | hrest⟩
    · exact .here hline hbelongs
    · exact .later hline hbelongs hrest

/-- A walk that starts on a course meets lines of the course only. -/
theorem Story.Meets.mem {line : Line} (h : story.Meets belongs pointer line)
    (hcourse : Course story.definition.tree lines) (hpointer : PointsInto lines pointer) :
    line ∈ lines := by
  induction h with
  | here hfound _ =>
    obtain ⟨line, hmem, hline⟩ := hcourse.exists_found (hpointer _ rfl)
    rw [story.line_eq_ok hline] at hfound
    cases hfound
    exact hmem
  | later hfound _ _ ih =>
    obtain ⟨line, hmem, hline⟩ := hcourse.exists_found (hpointer _ rfl)
    rw [story.line_eq_ok hline] at hfound
    cases hfound
    exact ih (hcourse.successor_pointsInto hmem)

/-- A walk that meets a line meets its successor, if that belongs to the walk. -/
theorem Story.Meets.next {id : String} {line other : Line} (h : story.Meets belongs pointer line)
    (hid : line.successor = some id) (hother : story.line id = .ok other)
    (hbelongs : belongs other = true) : story.Meets belongs pointer other := by
  induction h with
  | here hfound hfirst => exact .later hfound hfirst (hid ▸ .here hother hbelongs)
  | later hfound hfirst _ ih => exact .later hfound hfirst (ih hid)

/-- What holds of the line at which a walk starts, and with a line that the walk meets of its
successor, holds of every line that the walk meets. -/
@[elab_as_elim]
theorem Story.Meets.preserves {motive : Line → Prop} {last : Line}
    (h : story.Meets belongs pointer last)
    (hfirst : ∀ id line, pointer = some id → story.line id = .ok line → motive line)
    (hnext : ∀ line id other, story.Meets belongs pointer line → motive line →
      line.successor = some id → story.line id = .ok other → motive other) : motive last := by
  induction h with
  | here hfound _ => exact hfirst _ _ rfl hfound
  | @later _ line _ hfound hbelongs _ ih =>
    refine ih (fun id other hid hother => ?_) fun line id other hmeets => ?_
    · exact hnext line id other (.here hfound hbelongs) (hfirst _ _ rfl hfound) hid hother
    · exact hnext line id other (.later hfound hbelongs hmeets)

/-- Of two lines that a walk meets, it meets one after the other. -/
theorem Story.Meets.total {line other : Line} (h : story.Meets belongs pointer line)
    (h' : story.Meets belongs pointer other) :
    line = other ∨ story.Meets belongs line.successor other ∨
      story.Meets belongs other.successor line := by
  induction h with
  | here hfound _ => exact ((Story.meets_some_iff hfound).mp h').2.imp_right Or.inl
  | later hfound _ hrest ih =>
    rcases ((Story.meets_some_iff hfound).mp h').2 with rfl | hother
    · exact Or.inr (Or.inr hrest)
    · exact ih hother

/-- What a walk along a course runs is on the course. -/
theorem mem_of_mem_onceThrough {line : Line} (h : line ∈ onceThrough belongs lines pointer) :
    line ∈ lines := by
  fun_induction onceThrough belongs lines pointer with
  | case1 => cases h
  | case2 => cases h
  | case3 belongs first later id _ ih => exact List.mem_cons_of_mem first (ih h)
  | case4 belongs first later id _ _ ihblock ihrest =>
    rcases List.mem_cons.mp h with rfl | hlater
    · exact List.mem_cons_self ..
    · rcases List.mem_append.mp hlater with hblock | hrest
      · exact List.mem_cons_of_mem first (ihblock hblock)
      · exact List.mem_cons_of_mem first (ihrest hrest)
  | case5 => cases h

/-- Lines of a course with one id are one line. -/
theorem Course.line_eq_of_ln_eq {tree : Table Line} (h : Course tree lines) {line other : Line}
    (hline : line ∈ lines) (hother : other ∈ lines) (hln : line.ln = other.ln) : line = other := by
  obtain ⟨_, -, hleads⟩ := h.exists_leadsOn hline
  obtain ⟨_, -, hleads'⟩ := h.exists_leadsOn hother
  have hfound := hleads.found
  rw [hln, hleads'.found] at hfound
  exact (Option.some.inj hfound).symm

open scoped Classical in
/-- A line is run once for the walk that meets it and once for every run of a line whose block
meets it. -/
theorem count_onceThrough (hcourse : Course story.definition.tree lines)
    (hpointer : PointsInto lines pointer) (belongs : Line → Bool) (other : Line) :
    (onceThrough belongs lines pointer).count other =
      (if story.Meets belongs pointer other then 1 else 0) +
        (onceThrough belongs lines pointer).countP fun owner => story.InBlockOf owner other := by
  induction hcourse generalizing belongs pointer with
  | nil =>
    cases pointer with
    | none =>
      have hnone : ¬ story.Meets belongs none other := nofun
      simp [onceThrough, hnone]
    | some id => exact absurd (hpointer id rfl) List.not_mem_nil
  | @cons line later hline hlater ih =>
    cases pointer with
    | none =>
      have hnone : ¬ story.Meets belongs none other := nofun
      simp [onceThrough, hnone]
    | some id =>
      by_cases hid : line.ln = id
      · subst hid
        have hfound := story.line_eq_ok hline.found
        by_cases hbelongs : belongs line = true
        · -- the line itself, the run of its block, and the rest of the walk
          have hblock := ih hline.enter_mem line.owns
          have hrest := ih hline.successor_pointsInto belongs
          have hsplit : (if story.Meets belongs (some line.ln) other then 1 else 0) =
              (if line = other then 1 else 0) +
                if story.Meets belongs line.successor other then 1 else 0 := by
            rw [Story.meets_some_iff hfound]
            by_cases hother : line = other
            · subst hother
              have hagain : ¬ story.Meets belongs line.successor line := fun h =>
                hline.fresh (List.mem_map_of_mem (h.mem hlater hline.successor_pointsInto))
              simp [hbelongs, hagain]
            · simp [hbelongs, hother]
          have hown : (if story.Meets line.owns line.enter other then 1 else 0) =
              if decide (story.InBlockOf line other) = true then 1 else 0 := by
            change (if story.InBlockOf line other then 1 else 0) = _
            by_cases hother : story.InBlockOf line other
            all_goals simp [hother]
          simp only [onceThrough, ne_eq, not_true, if_false, hbelongs, if_true, List.count_cons,
            List.count_append, List.countP_cons, List.countP_append, hblock, hrest, hsplit, hown,
            beq_iff_eq]
          omega
        · have hnone : ¬ story.Meets belongs (some line.ln) other := by
            rw [Story.meets_some_iff hfound]
            exact fun h => hbelongs h.1
          simp [onceThrough, hbelongs, hnone]
      · have hfurther : PointsInto later (some id) := by
          intro target htarget
          cases htarget
          exact (List.mem_cons.mp (hpointer id rfl)).resolve_left fun hfirst => hid hfirst.symm
        have hskip : onceThrough belongs (line :: later) (some id) =
            onceThrough belongs later (some id) := by
          rw [onceThrough, if_pos hid]
        rw [hskip]
        exact ih hfurther belongs

end StoryEngine

import Mathlib.Data.List.Sort
import StoryEngine.Proofs.Story.Course

/-!
# Nested blocks

The blocks of a story as intervals of positions on its walk along `next`. The block of a line is
what lies between the line and its exit. In a story with nested blocks, the lines of an interval
that lie in no block within it are those whose parent owns the interval. Each of them leads to the
next one, unless its block has its exit in another block that begins there.
-/

namespace StoryEngine

/-- Where a line leads on the walk: past its block, if it has one, or else to the next line. -/
def blockEnd (lines : List Line) (i : Nat) : Nat :=
  match lines[i]? with
  | some line =>
    if line.enter.isSome then
      match line.exit with
      | some id => (lines.map Line.ln).idxOf id
      | none => lines.length
    else
      i + 1
  | none => i + 1

/-- A position lies in the interval that the line at another position owns. -/
def Covers (lines : List Line) (i p : Nat) : Prop :=
  i < p ∧ p < blockEnd lines i

instance (lines : List Line) (i p : Nat) : Decidable (Covers lines i p) :=
  inferInstanceAs (Decidable (_ ∧ _))

/-- The interval of a line is the innermost one in which a position lies: it lies in every other. -/
def Innermost (lines : List Line) (i p : Nat) : Prop :=
  Covers lines i p ∧ ∀ k < lines.length, Covers lines k p →
    ∀ q < lines.length, Covers lines i q → Covers lines k q

instance (lines : List Line) (i p : Nat) : Decidable (Innermost lines i p) :=
  inferInstanceAs (Decidable (_ ∧ _))

/-- The blocks of a walk form intervals: every block is entered at the next line and is not empty,
two of them are nested or disjoint, and the parent of a line owns the innermost interval around it.
The exit of a block is where its interval ends, by `blockEnd`. -/
structure WellNested (lines : List Line) : Prop where
  enter_eq : ∀ i (h : i < lines.length), lines[i].enter.isSome = true →
    lines[i].enter = (lines[i + 1]?).map Line.ln
  nonempty : ∀ i (h : i < lines.length), lines[i].enter.isSome = true → i + 1 < blockEnd lines i
  nested_or_disjoint : ∀ i < lines.length, ∀ k < lines.length,
    (∀ p < lines.length, Covers lines i p → Covers lines k p) ∨
    (∀ p < lines.length, Covers lines k p → Covers lines i p) ∨
    ∀ p < lines.length, ¬ (Covers lines i p ∧ Covers lines k p)
  parent_eq : ∀ p (h : p < lines.length),
    (lines[p].parent = none ∧ ∀ i < lines.length, ¬ Covers lines i p) ∨
    ∃ i < lines.length, Innermost lines i p ∧ lines[p].parent = (lines[i]?).map Line.ln

/-- The block of a line has its exit inside: in the block of a line that lies in it. -/
def ExitsInside (lines : List Line) (i : Nat) : Prop :=
  ∃ k < lines.length, Covers lines i k ∧ Covers lines k (blockEnd lines i)

instance (lines : List Line) (i : Nat) : Decidable (ExitsInside lines i) :=
  inferInstanceAs (Decidable (∃ k < lines.length, _))

/-- A block that has its exit inside is the last line of a block itself: it has a parent, and no
later line has the same one. -/
def ExitsClear (lines : List Line) : Prop :=
  ∀ i (hi : i < lines.length), ExitsInside lines i →
    lines[i].parent ≠ none ∧
      ∀ p (hp : p < lines.length), i < p → lines[p].parent ≠ lines[i].parent

instance (lines : List Line) : Decidable (ExitsClear lines) :=
  inferInstanceAs (Decidable (∀ i, (_ : i < lines.length) → _ → _ ∧ _))

/-- The positions from one up to another that lie in no interval owned between them, in order. -/
def unnested (lines : List Line) (a b : Nat) : List Nat :=
  (List.range' a (b - a)).filter fun p => ∀ k < b, a ≤ k → ¬ Covers lines k p

/-- The positions of an interval in the order in which structured execution reaches them: each of
the unnested ones, and after it those of the interval that its line owns. -/
def nestedOrder (lines : List Line) (a b : Nat) : List Nat :=
  (unnested lines a b).flatMap fun p =>
    if a ≤ p ∧ p < lines.length then
      p :: nestedOrder lines (p + 1) (blockEnd lines p)
    else
      []
termination_by lines.length - a

variable {tree : Table Line} {lines : List Line} {a b i k o p q : Nat}

/-- A block ends at the end of the walk or before. -/
theorem blockEnd_le_length (hi : i < lines.length) : blockEnd lines i ≤ lines.length := by
  unfold blockEnd
  rw [List.getElem?_eq_getElem hi]
  simp only
  split
  · split
    · exact Nat.le_trans List.idxOf_le_length (Nat.le_of_eq (List.length_map Line.ln))
    · exact Nat.le_refl _
  · exact hi

/-- A line that owns no block leads to the next line. -/
theorem blockEnd_of_enter_eq_none (hi : i < lines.length) (henter : lines[i].enter = none) :
    blockEnd lines i = i + 1 := by
  unfold blockEnd
  rw [List.getElem?_eq_getElem hi]
  simp [henter]

/-- A line leads forward. -/
theorem WellNested.lt_blockEnd (h : WellNested lines) (i : Nat) : i < blockEnd lines i := by
  by_cases hi : i < lines.length
  · cases henter : lines[i].enter with
    | none =>
      rw [blockEnd_of_enter_eq_none hi henter]
      omega
    | some id =>
      have hnonempty := h.nonempty i hi (by rw [henter, Option.isSome_some])
      omega
  · unfold blockEnd
    rw [List.getElem?_eq_none (by omega)]
    simp

/-- Only positions on the walk own intervals. -/
theorem Covers.lt_length (h : Covers lines i p) : i < lines.length := by
  obtain ⟨hlt, hend⟩ := h
  by_cases hi : i < lines.length
  · exact hi
  · unfold blockEnd at hend
    rw [List.getElem?_eq_none (by omega)] at hend
    simp only at hend
    omega

/-- Intervals lie on the walk. -/
theorem Covers.right_lt_length (h : Covers lines i p) : p < lines.length :=
  Nat.lt_of_lt_of_le h.2 (blockEnd_le_length h.lt_length)

/-- A line leads to every later position that it does not own, or to a position before it. -/
theorem blockEnd_le_of_not_covers (hik : i < k) (h : ¬ Covers lines i k) : blockEnd lines i ≤ k :=
  Nat.le_of_not_lt fun hlong => h ⟨hik, hlong⟩

/-- The successor of a line on a course is where the line leads. -/
theorem Course.successor_eq (hcourse : Course tree lines) (hi : i < lines.length) :
    lines[i].successor = (lines[blockEnd lines i]?).map Line.ln := by
  have hcut : lines.take i ++ lines[i] :: lines.drop (i + 1) = lines := by
    rw [List.getElem_cons_drop, List.take_append_drop]
  have hleads : lines[i].LeadsOn tree (lines.drop (i + 1)) := by
    rw [← hcut] at hcourse
    exact hcourse.leadsOn
  cases henter : lines[i].enter with
  | none =>
    rw [blockEnd_of_enter_eq_none hi henter]
    simp only [Line.successor, Line.isBlockOwner, henter, hleads.next_eq, List.head?_map,
      List.head?_drop]
    rfl
  | some first =>
    unfold blockEnd
    rw [List.getElem?_eq_getElem hi]
    simp only [Line.successor, Line.isBlockOwner, henter, Option.isSome_some, if_true]
    cases hexit : lines[i].exit with
    | none => simp
    | some id =>
      have hlater := hleads.exit_mem id hexit
      have hid : id ∈ lines.map Line.ln := by
        rw [← hcut, List.map_append, List.map_cons]
        exact List.mem_append_right _ (List.mem_cons_of_mem _ hlater)
      have hposition := List.idxOf_lt_length_of_mem hid
      rw [← List.getElem?_map, List.getElem?_eq_getElem hposition, List.getElem_idxOf]

/-- Lines of a course with one id stand at one position. -/
theorem Course.eq_of_ln_eq (hcourse : Course tree lines) (hi : i < lines.length)
    (hk : k < lines.length) (hln : lines[i].ln = lines[k].ln) : i = k := by
  have hposition : ∀ j (hj : j < lines.length), (lines.map Line.ln).idxOf lines[j].ln = j := by
    intro j hj
    have hj' : j < (lines.map Line.ln).length := by
      rw [List.length_map]
      exact hj
    have h := hcourse.nodup.idxOf_getElem j hj'
    rwa [List.getElem_map] at h
  rw [← hposition i hi, ← hposition k hk, hln]

/-- A walk that passes over the lines that it does not go to may start at any position up to the one
that it goes to. -/
theorem Course.walk_drop {β : Type} (hcourse : Course tree lines)
    (walk : List Line → Option String → β) (hover : ∀ few many, walk few none = walk many none)
    (hfurther : ∀ (line : Line) (later : List Line) (id : String), line.ln ≠ id →
      walk (line :: later) (some id) = walk later (some id)) (hab : a ≤ b) :
    walk (lines.drop a) ((lines[b]?).map Line.ln) =
      walk (lines.drop b) ((lines[b]?).map Line.ln) := by
  by_cases hb : b < lines.length
  · rw [List.getElem?_eq_getElem hb, Option.map_some]
    induction hgap : b - a generalizing a with
    | zero => rw [Nat.le_antisymm hab (Nat.le_of_sub_eq_zero hgap)]
    | succ gap ih =>
      have ha : a < lines.length := by omega
      have hne : lines[a].ln ≠ lines[b].ln := by
        intro hln
        have hsame := hcourse.eq_of_ln_eq ha hb hln
        omega
      rw [List.drop_eq_getElem_cons ha, hfurther _ _ _ hne]
      exact ih (by omega) (by omega)
  · rw [List.getElem?_eq_none (Nat.le_of_not_lt hb)]
    exact hover _ _

/-- Such a walk goes on from a line where the line leads. -/
theorem Course.walk_successor {β : Type} (hcourse : Course tree lines) (h : WellNested lines)
    (walk : List Line → Option String → β) (hover : ∀ few many, walk few none = walk many none)
    (hfurther : ∀ (line : Line) (later : List Line) (id : String), line.ln ≠ id →
      walk (line :: later) (some id) = walk later (some id)) (hi : i < lines.length) :
    walk (lines.drop (i + 1)) lines[i].successor =
      walk (lines.drop (blockEnd lines i)) ((lines[blockEnd lines i]?).map Line.ln) := by
  rw [hcourse.successor_eq hi]
  exact hcourse.walk_drop walk hover hfurther (h.lt_blockEnd i)

/-- From a position to itself there is nothing to run. -/
theorem unnested_self (lines : List Line) (a : Nat) : unnested lines a a = [] := by
  simp [unnested]

/-- The unnested positions lie between the given ones, in no interval owned there. -/
theorem mem_unnested :
    p ∈ unnested lines a b ↔ a ≤ p ∧ p < b ∧ ∀ k < b, a ≤ k → ¬ Covers lines k p := by
  rw [unnested, List.mem_filter, List.mem_range'_1, decide_eq_true_eq]
  constructor
  · rintro ⟨⟨hap, hpb⟩, hfree⟩
    exact ⟨hap, by omega, hfree⟩
  · rintro ⟨hap, hpb, hfree⟩
    exact ⟨⟨hap, by omega⟩, hfree⟩

/-- The unnested positions come in order. -/
theorem pairwise_lt_unnested (lines : List Line) (a b : Nat) :
    (unnested lines a b).Pairwise (· < ·) :=
  List.Pairwise.filter _ (List.pairwise_lt_range' 1)

/-- The first position is unnested. -/
theorem self_mem_unnested (hab : a < b) : a ∈ unnested lines a b := by
  rw [mem_unnested]
  exact ⟨Nat.le_refl a, hab, fun k _ hak hcovers => Nat.not_lt.mpr hak hcovers.1⟩

/-- All unnested positions come from the first position on. -/
theorem unnested_filter_le_self (lines : List Line) (a b : Nat) :
    (unnested lines a b).filter (a ≤ ·) = unnested lines a b :=
  List.filter_eq_self.mpr fun _ hp => decide_eq_true (mem_unnested.mp hp).1

/-- From a position after all of some positions on, there are none of them. -/
theorem filter_le_eq_nil {positions : List Nat} (h : ∀ q ∈ positions, q < p) :
    positions.filter (p ≤ ·) = [] := by
  refine List.filter_eq_nil_iff.mpr fun q hq => ?_
  have hlt := h q hq
  simpa using hlt

/-- The unnested positions from one of them on are that one and those from where it leads on. -/
theorem WellNested.unnested_filter_le (h : WellNested lines) (hp : p ∈ unnested lines a b) :
    (unnested lines a b).filter (p ≤ ·) =
      p :: (unnested lines a b).filter (blockEnd lines p ≤ ·) := by
  have hlt := h.lt_blockEnd p
  have hsorted := pairwise_lt_unnested lines a b
  refine List.Pairwise.eq_of_mem_iff (r := (· < ·)) (hsorted.filter _) ?_ fun q => ?_
  · refine List.pairwise_cons.mpr ⟨fun q hq => ?_, hsorted.filter _⟩
    have hlater := of_decide_eq_true (List.mem_filter.mp hq).2
    omega
  · simp only [List.mem_cons, List.mem_filter, decide_eq_true_eq]
    constructor
    · rintro ⟨hq, hpq⟩
      rcases Nat.eq_or_lt_of_le hpq with rfl | hpq
      · exact Or.inl rfl
      · -- a later position before the end of the block would lie in it
        obtain ⟨hap, hpb, -⟩ := mem_unnested.mp hp
        have hfree := (mem_unnested.mp hq).2.2 p hpb hap
        exact Or.inr ⟨hq, blockEnd_le_of_not_covers hpq hfree⟩
    · rintro (rfl | ⟨hq, hend⟩)
      · exact ⟨hp, Nat.le_refl _⟩
      · exact ⟨hq, by omega⟩

/-- A line that leads to a position between the given ones, but to none that is unnested, has its
exit inside its block. -/
theorem exitsInside_of_not_mem (h : WellNested lines) (hp : p ∈ unnested lines a b)
    (hend : blockEnd lines p < b) (hnot : blockEnd lines p ∉ unnested lines a b) :
    ExitsInside lines p := by
  obtain ⟨hap, hpb, hfree⟩ := mem_unnested.mp hp
  have hlt := h.lt_blockEnd p
  have hinside : ∃ k < b, a ≤ k ∧ Covers lines k (blockEnd lines p) := by
    rw [mem_unnested] at hnot
    by_contra hnone
    exact hnot ⟨by omega, hend, fun k hk hak hcovers => hnone ⟨k, hk, hak, hcovers⟩⟩
  obtain ⟨k, hk, hak, hcovers⟩ := hinside
  refine ⟨k, hcovers.lt_length, ⟨?_, hcovers.1⟩, hcovers⟩
  -- an owner before the line would own the line too, and the line does not own its exit
  rcases Nat.lt_trichotomy k p with hbefore | rfl | hlater
  · exact absurd ⟨hbefore, Nat.lt_trans hlt hcovers.2⟩ (hfree k hk hak)
  · exact absurd hcovers.2 (Nat.lt_irrefl _)
  · exact hlater

/-- The lines on the top level are those without a parent. -/
theorem WellNested.mem_unnested_story (h : WellNested lines) (hp : p < lines.length) :
    p ∈ unnested lines 0 lines.length ↔ lines[p].parent = none := by
  rw [mem_unnested]
  rcases h.parent_eq p hp with ⟨hnone, hfree⟩ | ⟨i, hi, ⟨hcovers, -⟩, hparent⟩
  · exact iff_of_true ⟨Nat.zero_le p, hp, fun k hk _ => hfree k hk⟩ hnone
  · refine iff_of_false (fun hfree => hfree.2.2 i hi (Nat.zero_le i) hcovers) ?_
    rw [hparent, List.getElem?_eq_getElem hi]
    exact nofun

/-- The lines of an interval that lie in no block within it are those whose parent owns the
interval. -/
theorem WellNested.mem_unnested_block (h : WellNested lines) (hcourse : Course tree lines)
    (ho : o < lines.length) (hp : p < lines.length) :
    p ∈ unnested lines (o + 1) (blockEnd lines o) ↔ lines[p].parent = some lines[o].ln := by
  rw [mem_unnested]
  constructor
  · rintro ⟨hop, hpend, hfree⟩
    have howner : Covers lines o p := ⟨hop, hpend⟩
    rcases h.parent_eq p hp with ⟨-, hnone⟩ | ⟨i, hi, ⟨hcovers, hinner⟩, hparent⟩
    · exact absurd howner (hnone o ho)
    · -- the innermost owner stands neither in the interval nor before its owner
      have hio : i ≤ o := Nat.le_of_not_lt fun hinside =>
        hfree i (Nat.lt_trans hcovers.1 hpend) hinside hcovers
      have hoi : o ≤ i := Nat.le_of_not_lt fun hbefore =>
        Nat.lt_irrefl o (hinner o ho howner o ho ⟨hbefore, Nat.lt_trans hop hcovers.2⟩).1
      rw [hparent, Nat.le_antisymm hio hoi, List.getElem?_eq_getElem ho, Option.map_some]
  · intro hparent
    rcases h.parent_eq p hp with ⟨hnone, -⟩ | ⟨i, hi, ⟨hcovers, hinner⟩, howner⟩
    · rw [hnone] at hparent
      cases hparent
    · rw [howner, List.getElem?_eq_getElem hi, Option.map_some] at hparent
      have hsame : i = o := hcourse.eq_of_ln_eq hi ho (Option.some.inj hparent)
      subst hsame
      refine ⟨hcovers.1, hcovers.2, fun k _ hk hinside => ?_⟩
      -- an interval within would have to hold the first line of the innermost one
      have hpos := hcovers.1
      have hfirst : Covers lines i (i + 1) :=
        ⟨Nat.lt_succ_self i, Nat.lt_of_le_of_lt hcovers.1 hcovers.2⟩
      have hstart := hinner k hinside.lt_length hinside (i + 1) (by omega) hfirst
      exact Nat.not_lt.mpr hk hstart.1

/-- A line of a block leads to the next line of the block, if one is left. -/
theorem ExitsClear.next_block (hclear : ExitsClear lines) (h : WellNested lines)
    (hcourse : Course tree lines) (ho : o < lines.length)
    (hp : p ∈ unnested lines (o + 1) (blockEnd lines o)) :
    blockEnd lines p ∈ unnested lines (o + 1) (blockEnd lines o) ∨
      ∀ q ∈ unnested lines (o + 1) (blockEnd lines o), q < blockEnd lines p := by
  by_contra hstuck
  rw [not_or] at hstuck
  obtain ⟨hnot, hleft⟩ := hstuck
  obtain ⟨q, hq, hend⟩ : ∃ q ∈ unnested lines (o + 1) (blockEnd lines o), blockEnd lines p ≤ q := by
    simpa using hleft
  have hlength := blockEnd_le_length ho
  have hpb := (mem_unnested.mp hp).2.1
  have hqb := (mem_unnested.mp hq).2.1
  have hlt := h.lt_blockEnd p
  have hinside := exitsInside_of_not_mem h hp (by omega) hnot
  have hparent := (h.mem_unnested_block hcourse ho (by omega)).mp hp
  have hparent' := (h.mem_unnested_block hcourse ho (by omega)).mp hq
  exact (hclear p (by omega) hinside).2 q (by omega) (by omega) (hparent'.trans hparent.symm)

/-- A line on the top level leads to the next one, if one is left. -/
theorem ExitsClear.next_story (hclear : ExitsClear lines) (h : WellNested lines)
    (hp : p ∈ unnested lines 0 lines.length) :
    blockEnd lines p ∈ unnested lines 0 lines.length ∨ blockEnd lines p = lines.length := by
  have hlength := (mem_unnested.mp hp).2.1
  rcases Nat.eq_or_lt_of_le (blockEnd_le_length hlength) with hend | hend
  · exact Or.inr hend
  · by_contra hstuck
    rw [not_or] at hstuck
    have hinside := exitsInside_of_not_mem h hp hend hstuck.1
    exact (hclear p hlength hinside).1 ((h.mem_unnested_story hlength).mp hp)

/-- Where a block has its exit inside, the line at the exit is the first line of the block of the
last line of the first block. -/
theorem WellNested.exit_of_exitsInside (h : WellNested lines) (hcourse : Course tree lines)
    (hinside : ExitsInside lines i) :
    ∃ k, i < k ∧ blockEnd lines i = k + 1 ∧ ∃ (hk : k + 1 < lines.length),
      lines[k].enter = some lines[k + 1].ln ∧ lines[k + 1].parent = some lines[k].ln := by
  obtain ⟨k, hk, hcovers, hexit⟩ := hinside
  have hi := hcovers.lt_length
  have hlength := hexit.right_lt_length
  have hend : blockEnd lines i = k + 1 := by
    refine Nat.le_antisymm (Nat.le_of_not_lt fun hlong => ?_) hcovers.2
    -- the two intervals would share the line after the second owner, but neither holds the other
    rcases h.nested_or_disjoint i hi k hk with hsub | hsub | hdisjoint
    · exact Nat.lt_irrefl k (hsub k hk hcovers).1
    · exact Nat.lt_irrefl _ (hsub _ hlength hexit).2
    · have hlong' := hexit.2
      exact hdisjoint (k + 1) (by omega)
        ⟨⟨Nat.lt_succ_of_lt hcovers.1, hlong⟩, ⟨Nat.lt_succ_self k, by omega⟩⟩
  rw [hend] at hexit hlength
  refine ⟨k, hcovers.1, hend, hlength, ?_, ?_⟩
  · cases henter : lines[k].enter with
    | none =>
      have hshort := blockEnd_of_enter_eq_none hk henter
      exact absurd hexit.2 (by omega)
    | some id =>
      rw [← henter, h.enter_eq k hk (by rw [henter, Option.isSome_some]),
        List.getElem?_eq_getElem hlength, Option.map_some]
  · exact (h.mem_unnested_block hcourse hk hlength).mp (self_mem_unnested hexit.2)

/-- The unnested positions of an interval on the walk are reached in order, each with the interval
that its line owns. -/
theorem nestedOrder_eq (hb : b ≤ lines.length) :
    nestedOrder lines a b =
      (unnested lines a b).flatMap fun p =>
        p :: nestedOrder lines (p + 1) (blockEnd lines p) := by
  rw [nestedOrder]
  refine List.flatMap_congr fun p hp => ?_
  obtain ⟨hap, hpb, -⟩ := mem_unnested.mp hp
  rw [if_pos ⟨hap, Nat.lt_of_lt_of_le hpb hb⟩]

/-- A position of an interval is unnested there, or is one of the interval of a line that is. -/
theorem mem_nestedOrder_iff (hb : b ≤ lines.length) :
    q ∈ nestedOrder lines a b ↔ ∃ p ∈ unnested lines a b,
      q = p ∨ q ∈ nestedOrder lines (p + 1) (blockEnd lines p) := by
  rw [nestedOrder_eq hb, List.mem_flatMap]
  simp only [List.mem_cons]

/-- What an interval reaches stands at its first position or later. -/
theorem le_of_mem_nestedOrder {a b : Nat} (hb : b ≤ lines.length) (hq : q ∈ nestedOrder lines a b) :
    a ≤ q := by
  obtain ⟨p, hp, rfl | hinner⟩ := (mem_nestedOrder_iff hb).mp hq
  · exact (mem_unnested.mp hp).1
  · obtain ⟨hap, hpb, -⟩ := mem_unnested.mp hp
    have hlater := le_of_mem_nestedOrder (blockEnd_le_length (by omega)) hinner
    omega
termination_by lines.length - a

/-- What an interval reaches stands before every later position that no line from the first one of
the interval on owns. -/
theorem lt_of_mem_nestedOrder {a b : Nat} (hb : b ≤ lines.length) (hbk : b ≤ k)
    (hfree : ∀ i < k, a ≤ i → ¬ Covers lines i k) (hq : q ∈ nestedOrder lines a b) : q < k := by
  obtain ⟨p, hp, rfl | hinner⟩ := (mem_nestedOrder_iff hb).mp hq
  · exact Nat.lt_of_lt_of_le (mem_unnested.mp hp).2.1 hbk
  · obtain ⟨hap, hpb, -⟩ := mem_unnested.mp hp
    have hpk : p < k := Nat.lt_of_lt_of_le hpb hbk
    have hend := blockEnd_le_of_not_covers hpk (hfree p hpk hap)
    exact lt_of_mem_nestedOrder (blockEnd_le_length (by omega)) hend
      (fun i hi hpi => hfree i hi (by omega)) hinner
termination_by lines.length - a

/-- An interval reaches its positions from left to right, each at most once. -/
theorem pairwise_lt_nestedOrder {a b : Nat} (hb : b ≤ lines.length) :
    (nestedOrder lines a b).Pairwise (· < ·) := by
  rw [nestedOrder_eq hb, List.pairwise_flatMap]
  constructor
  · intro p hp
    obtain ⟨hap, hpb, -⟩ := mem_unnested.mp hp
    have hend : blockEnd lines p ≤ lines.length := blockEnd_le_length (by omega)
    exact List.pairwise_cons.mpr
      ⟨fun q hq => le_of_mem_nestedOrder hend hq, pairwise_lt_nestedOrder hend⟩
  · refine (pairwise_lt_unnested lines a b).imp_of_mem fun {p k} hp hk hpk q hq r hr => ?_
    obtain ⟨hap, hpb, -⟩ := mem_unnested.mp hp
    obtain ⟨-, hkb, hfree⟩ := mem_unnested.mp hk
    have hqk : q < k := by
      rcases List.mem_cons.mp hq with rfl | hinner
      · exact hpk
      · have hend := blockEnd_le_of_not_covers hpk (hfree p hpb hap)
        exact lt_of_mem_nestedOrder (blockEnd_le_length (by omega)) hend
          (fun i hi hpi => hfree i (by omega) (by omega)) hinner
    rcases List.mem_cons.mp hr with rfl | hinner
    · exact hqk
    · have hkr := le_of_mem_nestedOrder (blockEnd_le_length (by omega)) hinner
      omega
termination_by lines.length - a

/-- An interval reaches the interval of each line that it reaches. -/
theorem mem_nestedOrder_of_block {a b : Nat} (hb : b ≤ lines.length)
    (hk : k ∈ nestedOrder lines a b)
    (hq : q ∈ unnested lines (k + 1) (blockEnd lines k)) : q ∈ nestedOrder lines a b := by
  obtain ⟨p, hp, hreached⟩ := (mem_nestedOrder_iff hb).mp hk
  obtain ⟨hap, hpb, -⟩ := mem_unnested.mp hp
  have hend : blockEnd lines p ≤ lines.length := blockEnd_le_length (by omega)
  refine (mem_nestedOrder_iff hb).mpr ⟨p, hp, Or.inr ?_⟩
  rcases hreached with rfl | hinner
  · exact (mem_nestedOrder_iff hend).mpr ⟨q, hq, Or.inl rfl⟩
  · exact mem_nestedOrder_of_block hend hinner hq
termination_by lines.length - a

/-- Structured execution of nested blocks reaches every position once, from left to right. -/
theorem WellNested.nestedOrder_story (h : WellNested lines) (hcourse : Course tree lines) :
    nestedOrder lines 0 lines.length = List.range lines.length := by
  refine List.Pairwise.eq_of_mem_iff (r := (· < ·)) (pairwise_lt_nestedOrder (Nat.le_refl _))
    List.pairwise_lt_range fun q => ?_
  rw [List.mem_range]
  constructor
  · exact lt_of_mem_nestedOrder (Nat.le_refl _) (Nat.le_refl _)
      fun i _ _ hcovers => Nat.lt_irrefl _ hcovers.right_lt_length
  · intro hq
    induction q using Nat.strongRecOn with
    | ind q ih =>
      rcases h.parent_eq q hq with ⟨hnone, -⟩ | ⟨i, hi, ⟨hcovers, -⟩, hparent⟩
      · exact (mem_nestedOrder_iff (Nat.le_refl _)).mpr
          ⟨q, (h.mem_unnested_story hq).mpr hnone, Or.inl rfl⟩
      · rw [List.getElem?_eq_getElem hi, Option.map_some] at hparent
        exact mem_nestedOrder_of_block (Nat.le_refl _) (ih i hcovers.1 hi)
          ((h.mem_unnested_block hcourse hi hq).mpr hparent)

end StoryEngine

import Mathlib.Data.List.Perm.Subperm
import StoryEngine.Proofs.Story.Course

/-!
# Sound line graphs

What a line graph must be like to be executed, said of its pointers and of the positions along
`next` alone. A graph passes its checks exactly if it is like that, whichever order its lines are
checked in. The walk along `next` needs no more steps than there are lines to show whether it ends,
even where pointers lead nowhere or back.
-/

namespace StoryEngine

/-- The ids to which the block pointers of a line lead. -/
def Line.jumps (line : Line) : List String :=
  line.enter.toList ++ line.exit.toList

namespace StoryDefinition

/-- The id to which `next` leads from an id. -/
def nextOf (tree : Table Line) (id : String) : Option String :=
  tree[id]?.bind Line.next

/-- The pointer at which one is after some steps along `next`. -/
def pointerAfter (tree : Table Line) (pointer : Option String) : Nat → Option String
  | 0 => pointer
  | steps + 1 => (pointerAfter tree pointer steps).bind (nextOf tree)

/-- The id at a position of the walk along `next`, counted from zero. -/
def idAt (definition : StoryDefinition) (position : Nat) : Option String :=
  pointerAfter definition.tree definition.entrypoint position

/-- What a line graph must be like to be executed. -/
structure Sound (definition : StoryDefinition) : Prop where
  /-- Every line is filed under its own id. -/
  filed : ∀ key line, definition.line? key = some line → key = line.ln
  /-- The pointers of every line name lines, also those of a line off the walk. -/
  pointers : ∀ key line, definition.line? key = some line →
    ∀ id ∈ line.pointers, id ∈ definition.tree
  /-- The first line is there, if one is named. -/
  first : ∀ id, definition.entrypoint = some id → id ∈ definition.tree
  /-- No line is at two positions. -/
  simple : ∀ i j id, definition.idAt i = some id → definition.idAt j = some id → i = j
  /-- The block pointers of the line at a position lead to later positions. -/
  forward : ∀ i id line, definition.idAt i = some id → definition.line? id = some line →
    ∀ target ∈ line.jumps, ∃ j, i < j ∧ definition.idAt j = some target

variable {tree : Table Line} {pointer : Option String}

/-- The first of some steps along `next` may be taken at once. -/
theorem pointerAfter_succ (steps : Nat) :
    pointerAfter tree pointer (steps + 1) = pointerAfter tree (pointer.bind (nextOf tree)) steps := by
  induction steps with
  | zero => rfl
  | succ steps ih => rw [pointerAfter, ih, pointerAfter]

/-- There is no way on from the end. -/
theorem pointerAfter_eq_none_of_le {steps more : Nat} (hle : steps ≤ more)
    (hnone : pointerAfter tree pointer steps = none) : pointerAfter tree pointer more = none := by
  induction hle with
  | refl => exact hnone
  | step _ ih => rw [pointerAfter, ih, Option.bind_none]

end StoryDefinition

/-- The id at which a walk could not go on, if it did not come to its end. -/
def WalkEnd.pointer? : WalkEnd → Option String
  | finished => none
  | missing id | repeated id => some id

namespace StoryDefinition

variable {tree : Table Line} {pointer : Option String}

/-- A walk has the ids at the positions that it visits, and ends at the position after them. -/
theorem pointerAfter_walkFrom (tree : Table Line) (unseen : Nat) (seen : List String)
    (pointer : Option String) :
    let walk := walkFrom tree unseen seen pointer
    (∀ (position : Nat) (id : String), walk.ids[position]? = some id →
        pointerAfter tree pointer position = some id) ∧
      pointerAfter tree pointer walk.ids.length = walk.stop.pointer? := by
  fun_induction walkFrom tree unseen seen pointer with
  | case1 | case3 | case4 =>
    refine ⟨fun position id hid => ?_, rfl⟩
    cases hid
  | case2 =>
    refine ⟨fun position id hid => ?_, ?_⟩
    · cases hid
    · dsimp only
      split <;> rfl
  | case5 unseen seen id line hline hseen ih =>
    obtain ⟨hids, hstop⟩ := ih
    have hnext : (some id).bind (nextOf tree) = line.next := by
      rw [Option.bind_some, nextOf, hline, Option.bind_some]
    constructor
    · intro position other hother
      cases position with
      | zero => exact hother
      | succ position =>
        rw [pointerAfter_succ, hnext]
        exact hids position other hother
    · show pointerAfter tree (some id) ((walkFrom tree unseen (id :: seen) line.next).ids.length + 1) = _
      rw [pointerAfter_succ, hnext]
      exact hstop

/-- Keys of a table that are as many as the table has entries are all its keys. -/
theorem mem_of_length_eq_size {keys : List String} (hnodup : keys.Nodup)
    (hkeys : ∀ key ∈ keys, key ∈ tree) (hlength : keys.length = tree.size) {key : String}
    (hkey : key ∈ tree) : key ∈ keys := by
  have hsub : keys.Subperm tree.keys :=
    List.subperm_of_subset hnodup fun other hother => Std.ExtTreeMap.mem_keys.mpr (hkeys other hother)
  have hle : tree.keys.length ≤ keys.length := by
    rw [Std.ExtTreeMap.length_keys]
    omega
  exact (hsub.perm_of_length_le hle).mem_iff.mpr (Std.ExtTreeMap.mem_keys.mpr hkey)

/-- Where a walk comes back, it comes back to an id that it has seen. It has no steps left only if
it has seen every line. -/
theorem mem_of_stop_eq_repeated {unseen : Nat} {seen : List String} {id : String}
    (hnodup : seen.Nodup) (hseen : ∀ other ∈ seen, other ∈ tree)
    (hcount : seen.length + unseen = tree.size)
    (hstop : (walkFrom tree unseen seen pointer).stop = .repeated id) :
    id ∈ seen ∨ id ∈ (walkFrom tree unseen seen pointer).ids := by
  fun_induction walkFrom tree unseen seen pointer with
  | case1 | case3 => cases hstop
  | case2 seen other =>
    dsimp only at hstop
    split at hstop
    · rename_i hother
      cases hstop
      exact Or.inl (mem_of_length_eq_size hnodup hseen hcount hother)
    · cases hstop
  | case4 unseen seen other line hline hother =>
    cases hstop
    exact Or.inl hother
  | case5 unseen seen other line hline hother ih =>
    have hnamed : other ∈ tree := by
      rw [Std.ExtTreeMap.mem_iff_isSome_getElem?, hline]
      rfl
    rcases ih (List.nodup_cons.mpr ⟨hother, hnodup⟩) (List.forall_mem_cons.mpr ⟨hnamed, hseen⟩)
      (by rw [List.length_cons]; omega) hstop with hid | hid
    · rcases List.mem_cons.mp hid with rfl | hid
      · exact Or.inr (List.mem_cons_self ..)
      · exact Or.inl hid
    · exact Or.inr (List.mem_cons_of_mem other hid)

/-- A walk with a step for every line that it has not seen stays the same with more steps. -/
theorem walkFrom_add {unseen : Nat} {seen : List String} (more : Nat) (hnodup : seen.Nodup)
    (hseen : ∀ other ∈ seen, other ∈ tree) (hcount : seen.length + unseen = tree.size) :
    walkFrom tree (unseen + more) seen pointer = walkFrom tree unseen seen pointer := by
  fun_induction walkFrom tree unseen seen pointer with
  | case1 => rw [walkFrom]
  | case2 seen id =>
    cases more with
    | zero => rfl
    | succ more =>
      rw [← Nat.add_assoc, walkFrom]
      by_cases hid : id ∈ tree
      · have hknown : id ∈ seen := mem_of_length_eq_size hnodup hseen hcount hid
        obtain ⟨line, hline⟩ := Option.isSome_iff_exists.mp
          (Std.ExtTreeMap.mem_iff_isSome_getElem?.mp hid)
        simp only [hline, hknown, hid, if_true]
      · simp only [Std.ExtTreeMap.getElem?_eq_none hid, hid, if_false]
  | case3 unseen seen id hline => rw [Nat.succ_add, walkFrom, hline]
  | case4 unseen seen id line hline hid =>
    rw [Nat.succ_add, walkFrom, hline]
    exact if_pos hid
  | case5 unseen seen id line hline hid ih =>
    have hnamed : id ∈ tree := by
      rw [Std.ExtTreeMap.mem_iff_isSome_getElem?, hline]
      rfl
    have hlater := ih (List.nodup_cons.mpr ⟨hid, hnodup⟩) (List.forall_mem_cons.mpr ⟨hnamed, hseen⟩)
      (by rw [List.length_cons]; omega)
    rw [Nat.succ_add, walkFrom, hline]
    dsimp only
    rw [if_neg hid, hlater]

/-- Block pointers pass their checks if each leads from its position to a later one. -/
theorem checkJumps_eq_ok {walk : List String} {visited : List (String × Line)} :
    checkJumps walk visited = .ok () ↔
      ∀ (i : Nat) (id : String) (line : Line), visited[i]? = some (id, line) → ∀ target ∈ line.jumps,
        ∃ j, i < j ∧ (visited.map Prod.fst)[j]? = some target := by
  induction visited with
  | nil =>
    refine ⟨fun _ i id line hentry => ?_, fun _ => rfl⟩
    cases hentry
  | cons entry later ih =>
    obtain ⟨id, line⟩ := entry
    rw [checkJumps, bind_unit_eq_ok, bind_unit_eq_ok, checkJump_eq_ok, checkJump_eq_ok, ih]
    constructor
    · rintro ⟨henter, hexit, hlater⟩ i other line' hentry target htarget
      cases i with
      | zero =>
        cases hentry
        have hmem : target ∈ later.map Prod.fst := by
          rcases List.mem_append.mp htarget with htarget | htarget
          · exact henter target (Option.mem_toList.mp htarget)
          · exact hexit target (Option.mem_toList.mp htarget)
        obtain ⟨j, hj⟩ := List.mem_iff_getElem?.mp hmem
        exact ⟨j + 1, Nat.succ_pos j, hj⟩
      | succ i =>
        obtain ⟨j, hlt, hj⟩ := hlater i other line' hentry target htarget
        exact ⟨j + 1, Nat.succ_lt_succ hlt, hj⟩
    · intro hjumps
      have hown (target : String) (htarget : target ∈ line.jumps) :
          target ∈ later.map Prod.fst := by
        obtain ⟨j, hlt, hj⟩ := hjumps 0 id line rfl target htarget
        obtain ⟨j, rfl⟩ := Nat.exists_eq_add_one.mpr hlt
        exact List.mem_of_getElem? hj
      refine ⟨fun target htarget => hown target ?_, fun target htarget => hown target ?_, ?_⟩
      · exact List.mem_append_left _ (Option.mem_toList.mpr htarget)
      · exact List.mem_append_right _ (Option.mem_toList.mpr htarget)
      · intro i other line' hentry target htarget
        obtain ⟨j, hlt, hj⟩ := hjumps (i + 1) other line' hentry target htarget
        obtain ⟨j, rfl⟩ := Nat.exists_eq_add_one.mpr (Nat.zero_lt_of_lt hlt)
        exact ⟨j, Nat.lt_of_succ_lt_succ hlt, hj⟩

/-- The entries that follow each other along `next` are lines with the ids by which they are found. -/
theorem Follows.found {visited : List (String × Line)} (h : Follows tree pointer visited) :
    ∀ entry ∈ visited, tree[entry.1]? = some entry.2 := by
  induction h with
  | nil => exact List.forall_mem_nil _
  | cons hfound _ _ ih => exact List.forall_mem_cons.mpr ⟨hfound, ih⟩

/-- No two of the entries that follow each other along `next` have one id. -/
theorem Follows.nodup {visited : List (String × Line)} (h : Follows tree pointer visited) :
    (visited.map Prod.fst).Nodup := by
  induction h with
  | nil => exact List.nodup_nil
  | cons _ hfresh _ ih => exact List.nodup_cons.mpr ⟨hfresh, ih⟩

section

variable {definition : StoryDefinition}

/-- The walk has the ids at the positions that it visits. -/
theorem idAt_of_getElem? {position : Nat} {id : String}
    (hid : definition.nextWalk.ids[position]? = some id) : definition.idAt position = some id :=
  (pointerAfter_walkFrom definition.tree definition.tree.size [] definition.entrypoint).1 position id
    hid

/-- The walk ends at the position after those that it visits. -/
theorem idAt_length_ids (definition : StoryDefinition) :
    definition.idAt definition.nextWalk.ids.length = definition.nextWalk.stop.pointer? :=
  (pointerAfter_walkFrom definition.tree definition.tree.size [] definition.entrypoint).2

/-- Where the walk comes back, it comes back to a position that it has visited. -/
theorem exists_getElem?_of_stop_eq_repeated {id : String}
    (hstop : definition.nextWalk.stop = .repeated id) :
    ∃ position, position < definition.nextWalk.ids.length ∧
      definition.nextWalk.ids[position]? = some id := by
  have hmem : id ∈ definition.nextWalk.ids :=
    (mem_of_stop_eq_repeated List.nodup_nil nofun (Nat.zero_add _) hstop).resolve_left
      List.not_mem_nil
  obtain ⟨position, hposition⟩ := List.mem_iff_getElem?.mp hmem
  obtain ⟨hlt, -⟩ := List.getElem?_eq_some_iff.mp hposition
  exact ⟨position, hlt, hposition⟩

/-- What a walk that comes to its end visits at a position. -/
theorem visited_eq_some_iff (hstop : definition.nextWalk.stop = .finished) {position : Nat}
    {id : String} {line : Line} :
    definition.nextWalk.visited[position]? = some (id, line) ↔
      definition.nextWalk.ids[position]? = some id ∧ definition.line? id = some line := by
  have hfound := (follows_walkFrom hstop).1.found
  rw [NextWalk.ids, List.getElem?_map, Option.map_eq_some_iff]
  constructor
  · intro hentry
    exact ⟨⟨(id, line), hentry, rfl⟩, hfound _ (List.mem_of_getElem? hentry)⟩
  · rintro ⟨⟨⟨_, other⟩, hentry, rfl⟩, hline⟩
    have hother := hfound _ (List.mem_of_getElem? hentry)
    obtain rfl : line = other := Option.some.inj (hline.symm.trans hother)
    exact hentry

/-- The ids of a walk that comes to its end are those at the positions. -/
theorem idAt_eq_getElem? (hstop : definition.nextWalk.stop = .finished) (position : Nat) :
    definition.idAt position = definition.nextWalk.ids[position]? := by
  cases hid : definition.nextWalk.ids[position]? with
  | some id => exact idAt_of_getElem? hid
  | none =>
    have hnone : definition.idAt definition.nextWalk.ids.length = none := by
      rw [idAt_length_ids, hstop, WalkEnd.pointer?]
    exact pointerAfter_eq_none_of_le (List.getElem?_eq_none_iff.mp hid) hnone

/-- The walk of a graph without a line at two positions does not come back. -/
theorem Sound.stop_ne_repeated (h : definition.Sound) (id : String) :
    definition.nextWalk.stop ≠ .repeated id := by
  intro hstop
  obtain ⟨position, hlt, hposition⟩ := exists_getElem?_of_stop_eq_repeated hstop
  have hlast : definition.idAt definition.nextWalk.ids.length = some id := by
    rw [idAt_length_ids, hstop, WalkEnd.pointer?]
  have heq := h.simple _ _ id (idAt_of_getElem? hposition) hlast
  omega

/-- The walk of a sound graph comes to its end. -/
theorem Sound.stop_eq_finished (h : definition.Sound) :
    definition.nextWalk.stop = .finished := by
  refine nextWalk_stop_eq_finished h.first (fun key line hline id hid => ?_) h.stop_ne_repeated
  exact h.pointers key line hline id (by simp [Line.pointers, hid])

/-- A line graph passes its checks exactly if it is sound, in whatever order its lines are listed. -/
theorem validateIn_eq_ok_iff_sound {order : List (String × Line)}
    (hperm : order.Perm definition.tree.toList) :
    definition.validateIn order = .ok () ↔ definition.Sound := by
  have hlines : checkLines definition.tree order = .ok () ↔
      ∀ key line, definition.line? key = some line →
        key = line.ln ∧ ∀ id ∈ line.pointers, id ∈ definition.tree := by
    simp only [checkLines_eq_ok, checkLine_eq_ok, Prod.forall, hperm.mem_iff,
      Std.ExtTreeMap.mem_toList_iff_getElem?_eq_some]
    rfl
  rw [validateIn_eq_ok, hlines, checkFirst_eq_ok, checkEnd_eq_ok, checkJumps_eq_ok]
  constructor
  · rintro ⟨hfiled, hfirst, hend, hjumps⟩
    have hstop : definition.nextWalk.stop = .finished :=
      nextWalk_stop_eq_finished hfirst
        (fun key line hline id hid => (hfiled key line hline).2 id (by simp [Line.pointers, hid]))
        hend
    constructor
    case filed => exact fun key line hline => (hfiled key line hline).1
    case pointers => exact fun key line hline => (hfiled key line hline).2
    case first => exact hfirst
    case simple =>
      intro i j id hi hj
      rw [idAt_eq_getElem? hstop] at hi hj
      obtain ⟨hlt, -⟩ := List.getElem?_eq_some_iff.mp hi
      exact (List.getElem?_inj hlt (follows_walkFrom hstop).1.nodup).mp (hi.trans hj.symm)
    case forward =>
      intro i id line hi hline target htarget
      rw [idAt_eq_getElem? hstop] at hi
      obtain ⟨j, hlt, hj⟩ := hjumps i id line ((visited_eq_some_iff hstop).mpr ⟨hi, hline⟩)
        target htarget
      exact ⟨j, hlt, (idAt_eq_getElem? hstop j).trans hj⟩
  · intro h
    have hstop := h.stop_eq_finished
    refine ⟨fun key line hline => ⟨h.filed key line hline, h.pointers key line hline⟩, h.first,
      h.stop_ne_repeated, ?_⟩
    intro i id line hentry target htarget
    obtain ⟨hi, hline⟩ := (visited_eq_some_iff hstop).mp hentry
    rw [← idAt_eq_getElem? hstop] at hi
    obtain ⟨j, hlt, hj⟩ := h.forward i id line hi hline target htarget
    exact ⟨j, hlt, (idAt_eq_getElem? hstop j).symm.trans hj⟩

/-- The walk has as many steps as it can need: with more of them, it is the same. -/
theorem nextWalk_eq_of_more (definition : StoryDefinition) (more : Nat) :
    walkFrom definition.tree (definition.tree.size + more) [] definition.entrypoint =
      definition.nextWalk :=
  walkFrom_add more List.nodup_nil nofun (Nat.zero_add _)

/-- However its pointers lead, the walk along `next` is at its end or back at a line by the time it
has made one step more than there are lines. -/
theorem exists_end_or_return (definition : StoryDefinition) :
    ∃ steps, steps ≤ definition.tree.size + 1 ∧ (definition.idAt steps = none ∨
      ∃ earlier, earlier < steps ∧ definition.idAt earlier = definition.idAt steps) := by
  have hlength : definition.nextWalk.ids.length ≤ definition.tree.size := by
    rw [NextWalk.ids, List.length_map]
    exact length_visited_walkFrom_le ..
  have hend := definition.idAt_length_ids
  cases hstop : definition.nextWalk.stop with
  | finished =>
    rw [hstop] at hend
    exact ⟨definition.nextWalk.ids.length, by omega, Or.inl hend⟩
  | missing id =>
    -- one more step shows that there is no line to go on from
    have hmissing : id ∉ definition.tree := (walkFrom_stop_missing hstop).1
    refine ⟨definition.nextWalk.ids.length + 1, by omega, Or.inl ?_⟩
    calc
      _ = (definition.idAt definition.nextWalk.ids.length).bind (nextOf definition.tree) := rfl
      _ = nextOf definition.tree id := by rw [hend, hstop, WalkEnd.pointer?, Option.bind_some]
      _ = none := by rw [nextOf, Std.ExtTreeMap.getElem?_eq_none hmissing, Option.bind_none]
  | repeated id =>
    obtain ⟨earlier, hlt, hearlier⟩ := exists_getElem?_of_stop_eq_repeated hstop
    refine ⟨definition.nextWalk.ids.length, by omega, Or.inr ⟨earlier, hlt, ?_⟩⟩
    rw [idAt_of_getElem? hearlier, hend, hstop, WalkEnd.pointer?]

end

end StoryDefinition

end StoryEngine

import StoryEngine.Proofs.Success
import StoryEngine.Story.Basic
import StoryEngine.Story.Validation

/-!
# The course of a sound story

The walk along `next` through a sound story is its course: a list of lines, each found under its own
id, in which `next` leads to the line right after and the block pointers lead further on. This is
all that the interpreter needs to know of a story, so validation is opened here and nowhere else.
-/

namespace StoryEngine

/-- The ids to which a line points. -/
def Line.pointers (line : Line) : List String :=
  line.next.toList ++ line.enter.toList ++ line.exit.toList ++ line.parent.toList

/-- Where a line of a course leads: its `next` to the first of the later lines, its block pointers
to any of them. -/
structure Line.LeadsOn (tree : Table Line) (line : Line) (later : List Line) : Prop where
  found : tree[line.ln]? = some line
  fresh : line.ln ∉ later.map Line.ln
  next_eq : line.next = (later.map Line.ln).head?
  enter_mem : ∀ id, line.enter = some id → id ∈ later.map Line.ln
  exit_mem : ∀ id, line.exit = some id → id ∈ later.map Line.ln

/-- A list of lines of a graph in which every line leads on to later ones. -/
inductive Course (tree : Table Line) : List Line → Prop
  | nil : Course tree []
  | cons {line : Line} {later : List Line} : line.LeadsOn tree later → Course tree later →
      Course tree (line :: later)

/-- A pointer into some lines: it names one of them, if it is there at all. -/
def PointsInto (lines : List Line) (pointer : Option String) : Prop :=
  ∀ id, pointer = some id → id ∈ lines.map Line.ln

/-- A line whose block pointers and `next` lead on has its successor among the later lines. -/
theorem Line.LeadsOn.successor_pointsInto {tree : Table Line} {line : Line} {later : List Line}
    (h : line.LeadsOn tree later) : PointsInto later line.successor := by
  intro id hid
  unfold Line.successor at hid
  split at hid
  · exact h.exit_mem id hid
  · rw [h.next_eq] at hid
    exact List.mem_of_head? hid

/-- The last part of a course is a course. -/
theorem Course.of_append {tree : Table Line} {before rest : List Line}
    (h : Course tree (before ++ rest)) : Course tree rest := by
  induction before with
  | nil => exact h
  | cons line before ih =>
    cases h with
    | cons _ hlater => exact ih hlater

/-- Wherever a course is cut before a line, the line leads on to the rest. -/
theorem Course.leadsOn {tree : Table Line} {before later : List Line} {line : Line}
    (h : Course tree (before ++ line :: later)) : line.LeadsOn tree later := by
  cases h.of_append with
  | cons hline _ => exact hline

/-- Every line of a course leads on to later lines of it. -/
theorem Course.exists_leadsOn {tree : Table Line} {lines : List Line} (h : Course tree lines)
    {line : Line} (hline : line ∈ lines) : ∃ later, later ⊆ lines ∧ line.LeadsOn tree later := by
  obtain ⟨before, later, rfl⟩ := List.append_of_mem hline
  refine ⟨later, ?_, h.leadsOn⟩
  intro other hother
  exact List.mem_append_right before (List.mem_cons_of_mem line hother)

/-- A pointer into some lines points into more lines. -/
theorem PointsInto.mono {few many : List Line} {pointer : Option String}
    (h : PointsInto few pointer) (hsub : few ⊆ many) : PointsInto many pointer := by
  intro id hid
  obtain ⟨line, hline, rfl⟩ := List.mem_map.mp (h id hid)
  exact List.mem_map_of_mem (hsub hline)

/-- The block of a line of a course is entered on the course. -/
theorem Course.enter_pointsInto {tree : Table Line} {lines : List Line} (h : Course tree lines)
    {line : Line} (hline : line ∈ lines) : PointsInto lines line.enter := by
  obtain ⟨later, hsub, hleads⟩ := h.exists_leadsOn hline
  exact PointsInto.mono hleads.enter_mem hsub

/-- The successor of a line of a course is on the course. -/
theorem Course.successor_pointsInto {tree : Table Line} {lines : List Line}
    (h : Course tree lines) {line : Line} (hline : line ∈ lines) :
    PointsInto lines line.successor := by
  obtain ⟨later, hsub, hleads⟩ := h.exists_leadsOn hline
  exact hleads.successor_pointsInto.mono hsub

/-- An id on a course is that of a line of the course, which is found under it. -/
theorem Course.exists_found {tree : Table Line} {lines : List Line} (h : Course tree lines)
    {id : String} (hid : id ∈ lines.map Line.ln) : ∃ line ∈ lines, tree[id]? = some line := by
  obtain ⟨line, hline, rfl⟩ := List.mem_map.mp hid
  obtain ⟨_, -, hleads⟩ := h.exists_leadsOn hline
  exact ⟨line, hline, hleads.found⟩

/-- No two lines of a course have the same id. -/
theorem Course.nodup {tree : Table Line} {lines : List Line} (h : Course tree lines) :
    (lines.map Line.ln).Nodup := by
  induction h with
  | nil => exact List.nodup_nil
  | cons hline _ ih => exact List.nodup_cons.mpr ⟨hline.fresh, ih⟩

/-- No line of a course comes twice. -/
theorem Course.nodup_lines {tree : Table Line} {lines : List Line} (h : Course tree lines) :
    lines.Nodup :=
  List.Pairwise.of_map Line.ln (fun _ _ hne heq => hne (congrArg Line.ln heq)) h.nodup

/-- A pointer from which walks stay on some lines: it is not there, or it names one of them, and the
block and the successor of that line lead on over the lines after it. -/
inductive WalksOn (tree : Table Line) : List Line → Option String → Prop
  | nowhere (lines : List Line) : WalksOn tree lines none
  | here {line : Line} {later : List Line} : tree[line.ln]? = some line →
      WalksOn tree later line.enter → WalksOn tree later line.successor →
      WalksOn tree (line :: later) (some line.ln)
  | further {line : Line} {later : List Line} {id : String} : line.ln ≠ id →
      WalksOn tree later (some id) → WalksOn tree (line :: later) (some id)

/-- Walks from any pointer into a course stay on the course. -/
theorem Course.walksOn {tree : Table Line} {lines : List Line} (h : Course tree lines)
    {pointer : Option String} (hpointer : PointsInto lines pointer) :
    WalksOn tree lines pointer := by
  induction h generalizing pointer with
  | nil =>
    cases pointer with
    | none => exact .nowhere []
    | some id => exact absurd (hpointer id rfl) List.not_mem_nil
  | @cons line later hline _ ih =>
    cases pointer with
    | none => exact .nowhere (line :: later)
    | some id =>
      by_cases hid : line.ln = id
      · subst hid
        exact .here hline.found (ih hline.enter_mem) (ih hline.successor_pointsInto)
      · refine .further hid (ih fun other hother => ?_)
        cases hother
        exact (List.mem_cons.mp (hpointer id rfl)).resolve_left fun hfirst => hid hfirst.symm

namespace StoryDefinition

/-- The entries that follow each other along `next`, from a pointer to the end. -/
inductive Follows (tree : Table Line) : Option String → List (String × Line) → Prop
  | nil : Follows tree none []
  | cons {id : String} {line : Line} {later : List (String × Line)} : tree[id]? = some line →
      id ∉ later.map Prod.fst → Follows tree line.next later →
      Follows tree (some id) ((id, line) :: later)

/-- A walk that comes to its end visits the entries that follow each other, and none that it has
seen. -/
theorem follows_walkFrom {tree : Table Line} {unseen : Nat} {seen : List String}
    {pointer : Option String} (hstop : (walkFrom tree unseen seen pointer).stop = .finished) :
    Follows tree pointer (walkFrom tree unseen seen pointer).visited ∧
      ∀ id ∈ (walkFrom tree unseen seen pointer).ids, id ∉ seen := by
  fun_induction walkFrom tree unseen seen pointer with
  | case1 => exact ⟨.nil, by simp [NextWalk.ids]⟩
  | case2 _ id =>
    simp only at hstop
    split at hstop <;> cases hstop
  | case3 => cases hstop
  | case4 => cases hstop
  | case5 unseen seen id line hline hseen ih =>
    obtain ⟨hfollows, hfresh⟩ := ih hstop
    have hid : id ∉ (walkFrom tree unseen (id :: seen) line.next).ids := by
      intro hmem
      exact hfresh id hmem (List.mem_cons_self ..)
    refine ⟨.cons hline hid hfollows, ?_⟩
    intro other hother
    rcases List.mem_cons.mp hother with rfl | hlater
    · exact hseen
    · exact fun hmem => hfresh other hlater (List.mem_cons_of_mem _ hmem)

/-- A walk visits no more lines than it may. -/
theorem length_visited_walkFrom_le (tree : Table Line) (unseen : Nat) (seen : List String)
    (pointer : Option String) : (walkFrom tree unseen seen pointer).visited.length ≤ unseen := by
  fun_induction walkFrom tree unseen seen pointer with
  | case1 | case2 | case3 | case4 => exact Nat.zero_le _
  | case5 _ _ _ _ _ _ ih => exact Nat.succ_le_succ ih

/-- Where a walk meets an id that no line has, it was given that id or found it in a line. -/
theorem walkFrom_stop_missing {tree : Table Line} {unseen : Nat} {seen : List String}
    {pointer : Option String} {id : String}
    (hstop : (walkFrom tree unseen seen pointer).stop = .missing id) :
    id ∉ tree ∧ (pointer = some id ∨
      ∃ (key : String) (line : Line), tree[key]? = some line ∧ line.next = some id) := by
  revert hstop
  fun_induction walkFrom tree unseen seen pointer with
  | case1 => intro hstop; cases hstop
  | case2 _ other =>
    intro hstop
    split at hstop
    · cases hstop
    · rename_i hmissing
      cases hstop
      exact ⟨hmissing, Or.inl rfl⟩
  | case3 unseen seen other hnone =>
    intro hstop
    cases hstop
    refine ⟨?_, Or.inl rfl⟩
    rw [Std.ExtTreeMap.mem_iff_isSome_getElem?, hnone]
    exact Bool.false_ne_true
  | case4 => intro hstop; cases hstop
  | case5 unseen seen other line hline _ ih =>
    intro hstop
    obtain ⟨hmissing, hpointer⟩ := ih hstop
    refine ⟨hmissing, Or.inr ?_⟩
    rcases hpointer with hnext | hfound
    · exact ⟨other, line, hline, hnext⟩
    · exact hfound

/-- A pointer passes its check if it names a line or is not there. -/
theorem checkPointer_eq_ok {tree : Table Line} {key field : String} {pointer : Option String} :
    checkPointer tree key field pointer = .ok () ↔ ∀ id, pointer = some id → id ∈ tree := by
  cases pointer with
  | none => exact ⟨fun _ => nofun, fun _ => rfl⟩
  | some target =>
    rw [checkPointer]
    split
    · rename_i htarget
      refine ⟨fun _ id hid => ?_, fun _ => rfl⟩
      cases hid
      exact htarget
    · rename_i htarget
      exact ⟨nofun, fun hnamed => absurd (hnamed target rfl) htarget⟩

/-- A line passes its check if it is filed under its id and its pointers name lines. -/
theorem checkLine_eq_ok {tree : Table Line} {key : String} {line : Line} :
    checkLine tree key line = .ok () ↔ key = line.ln ∧ ∀ id ∈ line.pointers, id ∈ tree := by
  have hpointers : (∀ id ∈ line.pointers, id ∈ tree) ↔
      (∀ id, line.next = some id → id ∈ tree) ∧ (∀ id, line.enter = some id → id ∈ tree) ∧
        (∀ id, line.exit = some id → id ∈ tree) ∧ ∀ id, line.parent = some id → id ∈ tree := by
    simp only [Line.pointers, List.mem_append, Option.mem_toList, or_imp, forall_and, and_assoc]
  rw [hpointers]
  dsimp only [checkLine]
  split
  · rename_i hkey
    constructor
    · intro hok
      obtain ⟨_, hthrow, -⟩ := bind_eq_ok.mp hok
      cases hthrow
    · rintro ⟨heq, -⟩
      exact absurd heq hkey
  · rename_i hkey
    rw [bind_unit_eq_ok, bind_unit_eq_ok, bind_unit_eq_ok]
    simp only [checkPointer_eq_ok]
    exact ⟨fun hnamed => ⟨Decidable.of_not_not hkey, hnamed⟩, fun hok => hok.2⟩

/-- Lines pass their check together if each of them passes its own. -/
theorem checkLines_eq_ok {tree : Table Line} {order : List (String × Line)} :
    checkLines tree order = .ok () ↔ ∀ entry ∈ order, checkLine tree entry.1 entry.2 = .ok () := by
  induction order with
  | nil => exact ⟨fun _ => List.forall_mem_nil _, fun _ => rfl⟩
  | cons entry rest ih => rw [checkLines, bind_unit_eq_ok, ih, List.forall_mem_cons]

/-- A block pointer passes its check if it leads to one of the later lines or is not there. -/
theorem checkJump_eq_ok {walk later : List String} {id field : String} {pointer : Option String} :
    checkJump walk later id field pointer = .ok () ↔
      ∀ target, pointer = some target → target ∈ later := by
  cases pointer with
  | none => exact ⟨fun _ => nofun, fun _ => rfl⟩
  | some target =>
    rw [checkJump]
    split
    · rename_i hlater
      refine ⟨fun _ other hother => ?_, fun _ => rfl⟩
      cases hother
      exact hlater
    · rename_i hlater
      refine ⟨fun hok => ?_, fun hleads => absurd (hleads target rfl) hlater⟩
      split at hok <;> cases hok

/-- Entries that follow each other to the end of a walk, filed under their ids and with block
pointers that pass their checks, are a course, with the pointer at its first line. -/
theorem Follows.course {tree : Table Line} {pointer : Option String}
    {visited : List (String × Line)} (hfollows : Follows tree pointer visited)
    (hfiled : ∀ (key : String) (line : Line), tree[key]? = some line → key = line.ln)
    {walk : List String} (hjumps : checkJumps walk visited = .ok ()) :
    Course tree (visited.map Prod.snd) ∧
      visited.map Prod.fst = (visited.map Prod.snd).map Line.ln ∧
      pointer = (visited.map Prod.fst).head? := by
  induction hfollows with
  | nil => exact ⟨.nil, rfl, rfl⟩
  | cons hfound hfresh _ ih =>
    rw [checkJumps, bind_unit_eq_ok, bind_unit_eq_ok, checkJump_eq_ok, checkJump_eq_ok] at hjumps
    obtain ⟨henter, hexit, hlater⟩ := hjumps
    obtain ⟨hcourse, hids, hnext⟩ := ih hlater
    have hid := hfiled _ _ hfound
    subst hid
    rw [hids] at hfresh henter hexit hnext
    exact ⟨.cons ⟨hfound, hfresh, hnext, henter, hexit⟩ hcourse, by simp [hids], rfl⟩

/-- The pointer to the first line passes its check if it names a line or is not there. -/
theorem checkFirst_eq_ok {definition : StoryDefinition} :
    checkFirst definition = .ok () ↔
      ∀ id, definition.entrypoint = some id → id ∈ definition.tree := by
  rw [checkFirst]
  cases definition.entrypoint with
  | none => exact ⟨fun _ => nofun, fun _ => rfl⟩
  | some first =>
    simp only
    split
    · rename_i hfirst
      refine ⟨fun _ id hid => ?_, fun _ => rfl⟩
      cases hid
      exact hfirst
    · rename_i hfirst
      exact ⟨nofun, fun hnamed => absurd (hnamed first rfl) hfirst⟩

/-- The end of a walk passes its check if the walk does not come back to a line. -/
theorem checkEnd_eq_ok {stop : WalkEnd} : checkEnd stop = .ok () ↔ ∀ id, stop ≠ .repeated id := by
  cases stop with
  | repeated id => exact ⟨nofun, fun hnot => absurd rfl (hnot id)⟩
  | finished | missing => exact ⟨fun _ => nofun, fun _ => rfl⟩

/-- A line graph is valid if it passes each of its checks. -/
theorem validateIn_eq_ok {definition : StoryDefinition} {order : List (String × Line)} :
    definition.validateIn order = .ok () ↔
      checkLines definition.tree order = .ok () ∧ checkFirst definition = .ok () ∧
        checkEnd definition.nextWalk.stop = .ok () ∧
        checkJumps definition.nextWalk.ids definition.nextWalk.visited = .ok () := by
  rw [validateIn, bind_unit_eq_ok, bind_unit_eq_ok, bind_unit_eq_ok]

/-- The walk along `next` through a sound story comes to its end. -/
theorem nextWalk_stop_eq_finished {definition : StoryDefinition}
    (hentry : ∀ id, definition.entrypoint = some id → id ∈ definition.tree)
    (hnext : ∀ (key : String) (line : Line), definition.tree[key]? = some line →
      ∀ id, line.next = some id → id ∈ definition.tree)
    (hend : ∀ id, definition.nextWalk.stop ≠ .repeated id) :
    definition.nextWalk.stop = .finished := by
  cases hstop : definition.nextWalk.stop with
  | finished => rfl
  | repeated id => exact absurd hstop (hend id)
  | missing id =>
    obtain ⟨hmissing, hpointer | ⟨key, line, hline, hid⟩⟩ := walkFrom_stop_missing hstop
    · exact absurd (hentry id hpointer) hmissing
    · exact absurd (hnext key line hline id hid) hmissing

/-- In a sound story every line is filed under its id, and its pointers name lines. -/
theorem filed_of_validate {definition : StoryDefinition} {name : String}
    (hvalid : definition.validate name = .ok ()) {key : String} {line : Line}
    (hline : definition.tree[key]? = some line) :
    key = line.ln ∧ ∀ id ∈ line.pointers, id ∈ definition.tree := by
  obtain ⟨hlines, -⟩ := validateIn_eq_ok.mp (mapError_eq_ok.mp hvalid)
  have hmem := Std.ExtTreeMap.mem_toList_iff_getElem?_eq_some.mpr hline
  exact checkLine_eq_ok.mp (checkLines_eq_ok.mp hlines (key, line) hmem)

/-- In a sound story the first line is filed, if one is named. -/
theorem first_of_validate {definition : StoryDefinition} {name : String}
    (hvalid : definition.validate name = .ok ()) {id : String}
    (hid : definition.entrypoint = some id) : id ∈ definition.tree := by
  obtain ⟨-, hfirst, -⟩ := validateIn_eq_ok.mp (mapError_eq_ok.mp hvalid)
  exact checkFirst_eq_ok.mp hfirst id hid

/-- The lines of the walk along `next` through a sound story are its course, and the walk finds
every line under its own id and comes to its end. -/
theorem course_of_validate {definition : StoryDefinition} {name : String}
    (hvalid : definition.validate name = .ok ()) :
    Course definition.tree definition.nextWalk.lines ∧
      definition.entrypoint = (definition.nextWalk.lines.map Line.ln).head? ∧
      definition.nextWalk.stop = .finished := by
  obtain ⟨-, hfirst, hend, hjumps⟩ := validateIn_eq_ok.mp (mapError_eq_ok.mp hvalid)
  have hnext : ∀ (key : String) (line : Line), definition.tree[key]? = some line →
      ∀ id, line.next = some id → id ∈ definition.tree := by
    intro key line hline id hid
    exact (filed_of_validate hvalid hline).2 id (by simp [Line.pointers, hid])
  have hstop := nextWalk_stop_eq_finished (checkFirst_eq_ok.mp hfirst) hnext
    (checkEnd_eq_ok.mp hend)
  obtain ⟨hcourse, hids, hentry⟩ := (follows_walkFrom hstop).1.course
    (fun key line hline => (filed_of_validate hvalid hline).1) hjumps
  refine ⟨hcourse, ?_, hstop⟩
  rw [hids] at hentry
  exact hentry

end StoryDefinition

namespace Story

/-- The lines of a story in the order of its walk along `next`. -/
def lines (story : Story) : List Line :=
  story.definition.nextWalk.lines

/-- A sound story starts on its course. -/
theorem firstLine_pointsInto {story : Story} {name : String}
    (hvalid : story.definition.validate name = .ok ()) :
    Course story.definition.tree story.lines ∧ PointsInto story.lines story.firstLine := by
  obtain ⟨hcourse, hentry, -⟩ := StoryDefinition.course_of_validate hvalid
  refine ⟨hcourse, fun id hid => ?_⟩
  have hhead := hentry.symm.trans hid
  exact List.mem_of_head? hhead

/-- A sound story starts at the first line of its walk. -/
theorem firstLine_eq {story : Story} {name : String}
    (hvalid : story.definition.validate name = .ok ()) :
    story.firstLine = (story.lines[0]?).map Line.ln := by
  obtain ⟨-, hentry, -⟩ := StoryDefinition.course_of_validate hvalid
  rw [← List.head?_eq_getElem?, ← List.head?_map]
  exact hentry

/-- A story of some lines that starts at the first of them, in an application without services. -/
def ofLines (lines : List Line) : Story where
  name := "a.story"
  definition := {
    tree := .ofEntries (lines.map fun line => (line.ln, line))
    entrypoint := lines.head?.map Line.ln }
  app := {
    appId := "app-1"
    appDns := "my-app"
    version := 1
    ownerUuid := "owner-1"
    environment := .empty
    context := { secrets := .empty, hostname := "my-app.storyflow.app", version := 1 }
    catalog := {} }

/-- The story in an application with a given catalog. -/
def withCatalog (story : Story) (catalog : Catalog) : Story where
  name := story.name
  definition := story.definition
  app := { story.app with catalog := catalog }

/-- A line that is filed under an id is found under it. -/
theorem line_eq_ok {id : String} {line : Line} (story : Story)
    (hfound : story.definition.tree[id]? = some line) : story.line id = .ok line := by
  simp only [Story.line, StoryDefinition.line?, hfound]

/-- A line that a story finds is filed under its id. -/
theorem getElem?_of_line {story : Story} {id : String} {line : Line}
    (hline : story.line id = .ok line) : story.definition.tree[id]? = some line := by
  unfold Story.line StoryDefinition.line? at hline
  split at hline
  · rename_i hfound
    cases hline
    exact hfound
  · cases hline

end Story

end StoryEngine

import StoryEngine.Proofs.Json.Rereading
import StoryEngine.Story.Validation

/-!
# Stories that are written and read again

The name of a method is all that is written of it. So a method that is not known comes back as it
was, unless it bears the name of one that is. Nothing else of a line, and nothing that is checked
of a line graph, depends on this.
-/

namespace StoryEngine

namespace Method

/-- The method that is read where this one was written. -/
def reread (method : Method) : Method :=
  ofName method.name

/-- Whether the method is known if its name is. -/
def Canonical (method : Method) : Prop :=
  ∀ name, method = other name → ∀ knownMethod ∈ known, knownMethod.name ≠ name

/-- The method of a name bears it. -/
@[simp]
theorem name_ofName (name : String) : (ofName name).name = name := by
  unfold ofName
  cases hfind : known.find? fun method => method.name = name with
  | none => rfl
  | some method => simpa using List.find?_some hfind

theorem rereads : Json.Rereads ofRaw (fun method => .str method.name) reread where
  read_write _ := rfl
  kept {raw method} hread := by
    obtain ⟨name, _, rfl⟩ := map_eq_ok.mp hread
    rw [reread, name_ofName]

/-- A method is read from its name, and every name is that of a method. -/
theorem map_name_ofRaw (raw : Json.Raw) : (ofRaw raw).map name = raw.text := by
  rw [ofRaw]
  cases raw.text with
  | error fault => rfl
  | ok name => exact congrArg Except.ok (name_ofName name)

/-- A method comes back as it was exactly if it is known when its name is. -/
theorem reread_eq_self_iff {method : Method} : method.reread = method ↔ method.Canonical := by
  constructor
  · rintro hself name rfl knownMethod hknown hname
    have hfound : (known.find? fun method => method.name = name).isSome :=
      List.find?_isSome.mpr ⟨knownMethod, hknown, decide_eq_true hname⟩
    obtain ⟨found, hfind⟩ := Option.isSome_iff_exists.mp hfound
    have hother : found = other name := by
      rw [← hself, reread, ofName, Method.name, hfind, Option.getD_some]
    have hmem : other name ∈ known := hother ▸ List.mem_of_find?_eq_some hfind
    simp [known] at hmem
  · intro hcanonical
    cases method with
    | other name =>
      have hnone : (known.find? fun method => method.name = name) = none :=
        List.find?_eq_none.mpr fun knownMethod hknown => by
          simpa using hcanonical name rfl knownMethod hknown
      rw [reread, Method.name, ofName, hnone, Option.getD_none]
    | _ => rfl

/-- A method that is not known, but has the name of one that is, comes back as that one. -/
example : (other "set").reread = set := by decide

end Method

namespace Line

/-- The line that is read where this one was written. -/
def reread (line : Line) : Line :=
  { line with method := line.method.reread }

/-- Whether the method of the line is known if its name is. -/
def Canonical (line : Line) : Prop :=
  line.method.Canonical

theorem rereads_output :
    Json.Rereads (Json.Raw.option (Json.Raw.items Json.Raw.text)) outputToJson id := by
  have h := Json.rereads_text.items.option outputToJson nofun rfl fun _ => rfl
  rwa [List.map_id_fun, Option.map_id_fun] at h

theorem rereads : Json.Rereads ofRaw toJson reread where
  read_write line := by
    -- Field by field, in the order in which they are read; they are written in another one.
    refine bind_eq_ok.mpr ⟨_, Json.Raw.record_obj (by simp [fieldNames]) (by simp), ?_⟩
    refine bind_eq_ok.mpr ⟨_, Json.Fields.required_written Json.rereads_text rfl, ?_⟩
    refine bind_eq_ok.mpr ⟨_, Json.Fields.required_written Method.rereads rfl, ?_⟩
    refine bind_eq_ok.mpr ⟨_, Json.Fields.withDefault_written Json.rereads_optionText rfl, ?_⟩
    refine bind_eq_ok.mpr ⟨_, Json.Fields.withDefault_written Json.rereads_optionText rfl, ?_⟩
    refine bind_eq_ok.mpr ⟨_, Json.Fields.withDefault_written Json.rereads_optionText rfl, ?_⟩
    refine bind_eq_ok.mpr ⟨_, Json.Fields.withDefault_written Json.rereads_optionText rfl, ?_⟩
    refine bind_eq_ok.mpr ⟨_, Json.Fields.withDefault_written Json.rereads_optionText rfl, ?_⟩
    refine bind_eq_ok.mpr ⟨_, Json.Fields.withDefault_written Json.rereads_optionText rfl, ?_⟩
    refine bind_eq_ok.mpr ⟨_, Json.Fields.withDefault_written rereads_output rfl, ?_⟩
    refine bind_eq_ok.mpr ⟨_, Json.Fields.withDefault_written Json.rereads_json rfl, ?_⟩
    rfl
  kept {raw line} hread := by
    simp only [ofRaw, bind_eq_ok] at hread
    obtain ⟨_, -, _, -, method, hmethod, _, -, _, -, _, -, _, -, _, -, _, -, _, -, _, -, hline⟩ :=
      hread
    cases hline
    have hkept : method.reread = method := Json.Fields.kept_of_required Method.rereads hmethod
    rw [reread, hkept]

theorem reread_eq_self_iff {line : Line} : line.reread = line ↔ line.Canonical := by
  rw [Canonical, ← Method.reread_eq_self_iff]
  constructor
  · intro h
    exact congrArg Line.method h
  · intro h
    rw [reread, h]

/-- The method of a line is written under the name by which it was read. -/
theorem method_written {raw : Json.Raw} {line : Line} (hread : ofRaw raw = .ok line) :
    ∃ (fields : Json.Fields) (name : String), raw.record fieldNames = .ok fields ∧
      fields.required "method" Json.Raw.text = .ok name ∧
      line.toJson.member? "method" = some (.str name) := by
  simp only [ofRaw, bind_eq_ok] at hread
  obtain ⟨fields, hfields, _, -, method, hmethod, _, -, _, -, _, -, _, -, _, -, _, -, _, -, _, -,
    hline⟩ := hread
  cases hline
  refine ⟨fields, method.name, hfields, ?_, rfl⟩
  unfold Json.Fields.required at hmethod ⊢
  split at hmethod
  · rename_i written _
    rw [← Method.map_name_ofRaw, hmethod]
    rfl
  · cases hmethod

/-- Reading a line again changes its method at most. -/
theorem checkLine_reread (tree : Table Line) (key : String) (line : Line) :
    StoryDefinition.checkLine (tree.mapValues reread) key line.reread =
      StoryDefinition.checkLine tree key line := by
  have hpointer (field : String) (target : Option String) :
      StoryDefinition.checkPointer (tree.mapValues reread) key field target =
        StoryDefinition.checkPointer tree key field target := by
    cases target with
    | none => rfl
    | some target => simp only [StoryDefinition.checkPointer, Table.mem_mapValues]
  simp only [StoryDefinition.checkLine, hpointer]
  rfl

end Line

/-- The walk with its lines as they are read again. -/
def NextWalk.reread (walk : NextWalk) : NextWalk where
  visited := walk.visited.map fun (id, line) => (id, line.reread)
  stop := walk.stop

theorem NextWalk.ids_reread (walk : NextWalk) : walk.reread.ids = walk.ids := by
  simp only [ids, reread, List.map_map, Function.comp_def]

namespace StoryDefinition

/-- The line graph that is read where this one was written. -/
def reread (definition : StoryDefinition) : StoryDefinition :=
  { definition with tree := definition.tree.mapValues Line.reread }

/-- Whether every method of the lines is known if its name is. -/
def Canonical (definition : StoryDefinition) : Prop :=
  ∀ (id : String) (line : Line), definition.tree[id]? = some line → line.Canonical

theorem rereads : Json.Rereads ofRaw toJson reread where
  read_write definition := by
    refine bind_eq_ok.mpr ⟨_, Json.Raw.record_obj (by simp) (by simp), ?_⟩
    refine bind_eq_ok.mpr ⟨_, Json.Fields.withDefault_written Line.rereads.table rfl, ?_⟩
    refine bind_eq_ok.mpr ⟨_, Json.Fields.withDefault_written Json.rereads_optionText rfl, ?_⟩
    rfl
  kept {raw definition} hread := by
    simp only [ofRaw, bind_eq_ok] at hread
    obtain ⟨_, -, tree, htree, _, -, hdefinition⟩ := hread
    cases hdefinition
    have hkept : tree.mapValues Line.reread = tree :=
      Json.Fields.kept_of_withDefault Line.rereads.table (Table.mapValues_empty _) htree
    rw [reread, hkept]

theorem reread_eq_self_iff {definition : StoryDefinition} :
    definition.reread = definition ↔ definition.Canonical := by
  have htree : definition.reread = definition ↔
      definition.tree.mapValues Line.reread = definition.tree := by
    constructor
    · intro h
      exact congrArg tree h
    · intro h
      rw [reread, h]
  rw [htree, Table.mapValues_eq_self_iff]
  simp only [Line.reread_eq_self_iff, Canonical]

/-- The walk visits the same lines, which are read again. -/
theorem walkFrom_reread (tree : Table Line) (unseen : Nat) (seen : List String)
    (first : Option String) :
    walkFrom (tree.mapValues Line.reread) unseen seen first =
      (walkFrom tree unseen seen first).reread := by
  induction unseen generalizing seen first with
  | zero =>
    cases first with
    | none => rfl
    | some id => simp [walkFrom, NextWalk.reread]
  | succ unseen ih =>
    cases first with
    | none => rfl
    | some id =>
      cases hline : tree[id]? with
      | none => simp [walkFrom, hline, NextWalk.reread]
      | some line =>
        by_cases hseen : id ∈ seen
        · simp [walkFrom, hline, hseen, NextWalk.reread]
        · simp only [walkFrom, Table.getElem?_mapValues, hline, Option.map_some, if_neg hseen]
          rw [ih]
          rfl

theorem nextWalk_reread (definition : StoryDefinition) :
    definition.reread.nextWalk = definition.nextWalk.reread := by
  have hsize : definition.reread.tree.size = definition.tree.size := Std.ExtTreeMap.size_map
  rw [nextWalk, hsize]
  exact walkFrom_reread ..

theorem checkLines_reread (tree : Table Line) (order : List (String × Line)) :
    checkLines (tree.mapValues Line.reread) (order.map fun (id, line) => (id, line.reread)) =
      checkLines tree order := by
  induction order with
  | nil => rfl
  | cons entry order ih =>
    simp only [List.map_cons, checkLines, Line.checkLine_reread, ih]

theorem checkJumps_reread (walk : List String) (visited : List (String × Line)) :
    checkJumps walk (visited.map fun (id, line) => (id, line.reread)) =
      checkJumps walk visited := by
  induction visited with
  | nil => rfl
  | cons entry visited ih =>
    simp only [List.map_cons, checkJumps, ih, List.map_map, Function.comp_def]
    rfl

/-- A line graph that is read again has the fault that it had, in whatever order its lines are
checked. -/
theorem validateIn_reread (definition : StoryDefinition) (order : List (String × Line)) :
    definition.reread.validateIn (order.map fun (id, line) => (id, line.reread)) =
      definition.validateIn order := by
  have hfirst : definition.reread.checkFirst = definition.checkFirst := by
    simp only [checkFirst, reread, Table.mem_mapValues]
  rw [validateIn, nextWalk_reread, hfirst, NextWalk.ids_reread, reread, checkLines_reread]
  simp only [NextWalk.reread, checkJumps_reread]
  rfl

theorem validate_reread (definition : StoryDefinition) (story : String) :
    definition.reread.validate story = definition.validate story := by
  have horder : definition.reread.tree.toList =
      definition.tree.toList.map fun (id, line) => (id, line.reread) :=
    Table.toList_mapValues ..
  rw [validate, horder, validateIn_reread, validate]

end StoryDefinition

end StoryEngine

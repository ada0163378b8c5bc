import StoryEngine.Story.Line

/-!
# Line graphs

The lines of a story by their ids, and the walk along `next` from the first line. The walk visits no
line twice; how it ends tells a finite story from one that points nowhere or back into itself.
-/

namespace StoryEngine

/-- The line graph of a story. -/
structure StoryDefinition where
  tree : Table Line := ∅
  /-- Id of the first line; a story without one is empty. -/
  entrypoint : Option String := none
  deriving DecidableEq

/-- How a walk along `next` ends. -/
inductive WalkEnd where
  /-- After a line without a next one. -/
  | finished
  /-- At an id that no line has. -/
  | missing (id : String)
  /-- At a line that the walk has visited. -/
  | repeated (id : String)
  deriving DecidableEq, Repr

/-- The lines that a walk visits, with the ids by which it finds them, and its end. -/
structure NextWalk where
  visited : List (String × Line)
  stop : WalkEnd
  deriving DecidableEq, Repr

namespace NextWalk

/-- The walk with one more line in front. -/
def cons (id : String) (line : Line) (walk : NextWalk) : NextWalk where
  visited := (id, line) :: walk.visited
  stop := walk.stop

/-- The lines that the walk visits. -/
def lines (walk : NextWalk) : List Line :=
  walk.visited.map Prod.snd

/-- The ids that the walk visits. -/
def ids (walk : NextWalk) : List String :=
  walk.visited.map Prod.fst

end NextWalk

namespace StoryDefinition

/-- The line with an id. -/
def line? (definition : StoryDefinition) (id : String) : Option Line :=
  definition.tree[id]?

/-- The walk along `next` from an id, after the ids in `seen`, with at most `unseen` lines to go. -/
def walkFrom (tree : Table Line) : Nat → List String → Option String → NextWalk
  | _, _, none => ⟨[], .finished⟩
  | 0, _, some id => ⟨[], if id ∈ tree then .repeated id else .missing id⟩
  | unseen + 1, seen, some id =>
    match tree[id]? with
    | none => ⟨[], .missing id⟩
    | some line =>
      if id ∈ seen then ⟨[], .repeated id⟩
      else (walkFrom tree unseen (id :: seen) line.next).cons id line

/-- The walk along `next` from the first line. -/
def nextWalk (definition : StoryDefinition) : NextWalk :=
  walkFrom definition.tree definition.tree.size [] definition.entrypoint

/-- Reads a line graph. -/
def ofRaw (raw : Json.Raw) : Json.Decoded StoryDefinition := do
  let fields ← raw.record ["tree", "entrypoint"]
  let tree ← fields.withDefault "tree" ∅ (Json.Raw.table Line.ofRaw)
  let entrypoint ← fields.optional "entrypoint" Json.Raw.text
  pure { tree, entrypoint }

/-- The line graph as JSON. -/
def toJson (definition : StoryDefinition) : Json :=
  .obj [
    ("entrypoint", .ofText? definition.entrypoint),
    ("tree", Json.ofTableWith Line.toJson definition.tree)]

end StoryDefinition

end StoryEngine

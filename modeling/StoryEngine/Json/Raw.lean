import StoryEngine.Json.Basic

/-!
# JSON as a text spells it

A text may name a member twice, nest too deeply, or hold a number or a string that has no value.
Whether this matters depends on who reads it: a field that nobody asks for may hold anything.
`Raw` keeps such a text apart from the value that it stands for.
-/

namespace StoryEngine.Json

/-- JSON as written: values that are at hand, containers with their parts in written order, and
parts that cannot be read. -/
inductive Raw where
  | value (json : Json)
  | arr (items : List Raw)
  | obj (members : List (String × Raw))
  | unreadable
  deriving Inhabited

namespace Raw

/-- What a reader meets first. -/
inductive Shape where
  | null
  | bool (value : Bool)
  | int (value : Int)
  | float (value : Binary64)
  | str (value : String)
  | arr (items : List Raw)
  | obj (members : List (String × Raw))
  | unreadable

/-- The outermost layer, the same for a value at hand and for its text. -/
def shape : Raw → Shape
  | value .null => .null
  | value (.bool b) => .bool b
  | value (.int n) => .int n
  | value (.float x) => .float x
  | value (.str s) => .str s
  | value (.arr items) => .arr (items.map value)
  | value (.obj members) => .obj (members.map fun (name, json) => (name, value json))
  | arr items => .arr items
  | obj members => .obj members
  | unreadable => .unreadable

mutual

/-- The value of a text, if every part of it can be read; the last member of a name counts. -/
def toJson? : Raw → Option Json
  | value json => some json
  | arr items => (itemsToJson? items).map .arr
  | obj members => (membersToJson? members).map .ofEntries
  | unreadable => none

/-- The values of the items of an array. -/
def itemsToJson? : List Raw → Option (List Json)
  | [] => some []
  | item :: items => do
    let item ← toJson? item
    let items ← itemsToJson? items
    pure (item :: items)

/-- The values of the members of an object. -/
def membersToJson? : List (String × Raw) → Option (List (String × Json))
  | [] => some []
  | (name, member) :: members => do
    let member ← toJson? member
    let members ← membersToJson? members
    pure ((name, member) :: members)

end

end Raw

end StoryEngine.Json

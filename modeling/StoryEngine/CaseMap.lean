import StoryEngine.Json.Record
import StoryEngine.Text.Case

/-!
# Case-insensitive maps

Maps whose keys are told apart by their lower-case form. A map keeps, for each form, the value and
the spelling of the key with which it was last put in.
-/

namespace StoryEngine

/-- A map from texts to values that ignores the case of its keys. -/
structure CaseMap (α : Type) where
  /-- Spelling and value of each entry, by the lower-case form of the key. -/
  entries : Table (String × α) := ∅
  deriving DecidableEq

namespace CaseMap

variable {α : Type}

/-- The form by which keys are told apart. -/
def keyForm (key : String) : String :=
  Text.lowercase key

/-- The map without entries. -/
def empty : CaseMap α := {}

/-- Puts a value in, with its spelling, in place of any entry of the same form. -/
def insert (map : CaseMap α) (key : String) (value : α) : CaseMap α where
  entries := map.entries.insert (keyForm key) (key, value)

/-- The value of a key in any spelling. -/
def get? (map : CaseMap α) (key : String) : Option α :=
  map.entries[keyForm key]?.map Prod.snd

/-- Whether a key is present in any spelling. -/
def contains (map : CaseMap α) (key : String) : Bool :=
  map.entries.contains (keyForm key)

/-- Removes a key in any spelling. -/
def erase (map : CaseMap α) (key : String) : CaseMap α where
  entries := map.entries.erase (keyForm key)

/-- Puts a value in and returns the value that it replaces. -/
def put (map : CaseMap α) (key : String) (value : α) : Option α × CaseMap α :=
  (map.get? key, map.insert key value)

/-- Removes a key and returns its value. -/
def take (map : CaseMap α) (key : String) : Option α × CaseMap α :=
  (map.get? key, map.erase key)

/-- Number of entries. -/
def size (map : CaseMap α) : Nat :=
  map.entries.size

/-- Whether there are no entries. -/
def isEmpty (map : CaseMap α) : Bool :=
  map.entries.isEmpty

/-- Spelling and value of every entry, in the order of the lower-case forms. -/
def toList (map : CaseMap α) : List (String × α) :=
  map.entries.toList.map Prod.snd

/-- Puts the entries of a list in, one after another. -/
def ofList (entries : List (String × α)) : CaseMap α :=
  entries.foldl (fun map (key, value) => map.insert key value) empty

@[simp] theorem get?_empty (key : String) : (empty : CaseMap α).get? key = none := by
  simp [empty, get?]

/-- A value is found under every spelling of the key with which it was put in. -/
theorem get?_insert (map : CaseMap α) (key other : String) (value : α) :
    (map.insert key value).get? other =
      if keyForm key = keyForm other then some value else map.get? other := by
  simp only [get?, insert, Std.ExtTreeMap.getElem?_insert, Std.LawfulEqCmp.compare_eq_iff_eq]
  split <;> rfl

/-- A removed key is found under no spelling. -/
theorem get?_erase (map : CaseMap α) (key other : String) :
    (map.erase key).get? other = if keyForm key = keyForm other then none else map.get? other := by
  simp only [get?, erase, Std.ExtTreeMap.getElem?_erase, Std.LawfulEqCmp.compare_eq_iff_eq]
  split <;> rfl

/-- A key is present if it has a value. -/
theorem contains_eq_isSome_get? (map : CaseMap α) (key : String) :
    map.contains key = (map.get? key).isSome := by
  simp [contains, get?]

/-- The map as a JSON object, under the spellings of its keys. -/
def toJson (encode : α → Json) (map : CaseMap α) : Json :=
  .ofEntries (map.toList.map fun (key, value) => (key, encode value))

/-- Reads a map from a JSON object. -/
def ofRaw (read : Json.Raw → Json.Decoded α) (raw : Json.Raw) : Json.Decoded (CaseMap α) :=
  (raw.table read).map fun table => ofList table.toList

end CaseMap

end StoryEngine

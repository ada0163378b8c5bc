import StoryEngine.Json.Raw

/-!
# Reading typed data from JSON

Readers for texts, words, lists, tables and records. A record is written as an object or as an array
of its fields in order. Fields that a record does not have are passed over without a look; a field
given twice is an error.
-/

namespace StoryEngine.Json

/-- Why JSON is not of a type. -/
inductive DecodeFault where
  | unexpected (wanted : String)
  | outOfRange (limit : Nat)
  | missingField (name : String)
  | repeatedField (name : String)
  | tooManyElements (limit : Nat)
  | unreadable
  | malformed
  deriving DecidableEq, Repr

/-- The fault in words. -/
def DecodeFault.message : DecodeFault → String
  | unexpected wanted => s!"expected {wanted}"
  | outOfRange limit => s!"expected a whole number up to {limit}"
  | missingField name => s!"missing field {name}"
  | repeatedField name => s!"repeated field {name}"
  | tooManyElements limit => s!"expected at most {limit} elements"
  | unreadable => "a part has no value"
  | malformed => "the text is not JSON"

/-- A typed value, or why there is none. -/
abbrev Decoded (α : Type) := Except DecodeFault α

namespace Raw

/-- A text. -/
def text (raw : Raw) : Decoded String :=
  match raw.shape with
  | .str s => .ok s
  | _ => .error (.unexpected "a string")

/-- A whole number up to a limit, written as an integer. -/
def natUpTo (limit : Nat) (raw : Raw) : Decoded Nat :=
  match raw.shape with
  | .int (.ofNat n) => if n ≤ limit then .ok n else .error (.outOfRange limit)
  | _ => .error (.outOfRange limit)

/-- A 16-bit word. -/
def word16 (raw : Raw) : Decoded UInt16 :=
  (natUpTo (UInt16.size - 1) raw).map .ofNat

/-- A 32-bit word. -/
def word32 (raw : Raw) : Decoded UInt32 :=
  (natUpTo (UInt32.size - 1) raw).map .ofNat

/-- A 64-bit word. -/
def word64 (raw : Raw) : Decoded UInt64 :=
  (natUpTo (UInt64.size - 1) raw).map .ofNat

/-- Any value. -/
def json (raw : Raw) : Decoded Json :=
  match raw.toJson? with
  | some json => .ok json
  | none => .error .unreadable

/-- A value that may be null for absence. -/
def option {α : Type} (read : Raw → Decoded α) (raw : Raw) : Decoded (Option α) :=
  match raw.shape with
  | .null => .ok none
  | _ => (read raw).map some

/-- The items of an array. -/
def items {α : Type} (read : Raw → Decoded α) (raw : Raw) : Decoded (List α) :=
  match raw.shape with
  | .arr items => items.mapM read
  | _ => .error (.unexpected "an array")

/-- The members of an object, with their values read. -/
def readMemberValues {α : Type} (read : Raw → Decoded α) :
    List (String × Raw) → Decoded (List (String × α))
  | [] => .ok []
  | (name, member) :: members => do
    let value ← read member
    let values ← readMemberValues read members
    pure ((name, value) :: values)

/-- A table, written as an object. -/
def table {α : Type} (read : Raw → Decoded α) (raw : Raw) : Decoded (Table α) :=
  match raw.shape with
  | .obj members => (readMemberValues read members).map Table.ofEntries
  | _ => .error (.unexpected "an object")

end Raw

/-- The fields of a record that are present. -/
abbrev Fields := List (String × Raw)

/-- The first name that occurs twice. -/
def firstRepeated? : List String → Option String
  | [] => none
  | name :: names => if name ∈ names then some name else firstRepeated? names

/-- The fields of a record whose fields have these names, in this order. -/
def Raw.record (names : List String) (raw : Raw) : Decoded Fields :=
  match raw.shape with
  | .obj members =>
    let fields := members.filter fun (name, _) => name ∈ names
    match firstRepeated? (fields.map Prod.fst) with
    | some name => .error (.repeatedField name)
    | none => .ok fields
  | .arr items =>
    if names.length < items.length then .error (.tooManyElements names.length)
    else .ok (names.zip items)
  | _ => .error (.unexpected "a record")

namespace Fields

variable {α : Type}

/-- A field that must be present. -/
def required (fields : Fields) (name : String) (read : Raw → Decoded α) : Decoded α :=
  match fields.lookup name with
  | some raw => read raw
  | none => .error (.missingField name)

/-- A field with a value to take in its absence. -/
def withDefault (fields : Fields) (name : String) (value : α) (read : Raw → Decoded α) :
    Decoded α :=
  match fields.lookup name with
  | some raw => read raw
  | none => .ok value

/-- A field that may be absent or null. -/
def optional (fields : Fields) (name : String) (read : Raw → Decoded α) : Decoded (Option α) :=
  fields.withDefault name none (Raw.option read)

end Fields

end StoryEngine.Json

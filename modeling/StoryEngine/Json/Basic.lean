import StoryEngine.Binary64.Basic
import StoryEngine.Table

/-!
# JSON values

Opaque data of stories, subscriptions and environments. Whole numbers and double-precision numbers
are kept apart. The members of an object that was read are sorted by name and named once.
-/

namespace StoryEngine

/-- A JSON value. -/
inductive Json where
  | null
  | bool (value : Bool)
  | int (value : Int)
  | float (value : Binary64)
  | str (value : String)
  | arr (items : List Json)
  | obj (members : List (String × Json))
  deriving Repr, Inhabited

namespace Json

mutual

/-- Equality of values is decided part by part. -/
def decideEq : (a b : Json) → Decidable (a = b)
  | null, null => isTrue rfl
  | bool a, bool b => decidable_of_iff (a = b) (by simp)
  | int a, int b => decidable_of_iff (a = b) (by simp)
  | float a, float b => decidable_of_iff (a = b) (by simp)
  | str a, str b => decidable_of_iff (a = b) (by simp)
  | arr a, arr b => have := decideItems a b; decidable_of_iff (a = b) (by simp)
  | obj a, obj b => have := decideMembers a b; decidable_of_iff (a = b) (by simp)
  | null, bool _ | null, int _ | null, float _ | null, str _ | null, arr _ | null, obj _
  | bool _, null | bool _, int _ | bool _, float _ | bool _, str _ | bool _, arr _ | bool _, obj _
  | int _, null | int _, bool _ | int _, float _ | int _, str _ | int _, arr _ | int _, obj _
  | float _, null | float _, bool _ | float _, int _ | float _, str _ | float _, arr _
  | float _, obj _
  | str _, null | str _, bool _ | str _, int _ | str _, float _ | str _, arr _ | str _, obj _
  | arr _, null | arr _, bool _ | arr _, int _ | arr _, float _ | arr _, str _ | arr _, obj _
  | obj _, null | obj _, bool _ | obj _, int _ | obj _, float _ | obj _, str _ | obj _, arr _ =>
    isFalse nofun

/-- Equality of the items of arrays. -/
def decideItems : (as bs : List Json) → Decidable (as = bs)
  | [], [] => isTrue rfl
  | [], _ :: _ | _ :: _, [] => isFalse nofun
  | a :: as, b :: bs =>
    have := decideEq a b
    have := decideItems as bs
    decidable_of_iff (a = b ∧ as = bs) (by simp)

/-- Equality of the members of objects. -/
def decideMembers : (as bs : List (String × Json)) → Decidable (as = bs)
  | [], [] => isTrue rfl
  | [], _ :: _ | _ :: _, [] => isFalse nofun
  | (k, a) :: as, (l, b) :: bs =>
    have := decideEq a b
    have := decideMembers as bs
    decidable_of_iff (k = l ∧ a = b ∧ as = bs) (by simp [and_assoc])

end

instance : DecidableEq Json := decideEq

/-- The object of some entries; the last of several entries with one name counts. -/
def ofEntries (entries : List (String × Json)) : Json :=
  obj (Table.ofEntries entries).toList

/-- The object of a table, its values written one by one. -/
def ofTableWith {α : Type} (encode : α → Json) (table : Table α) : Json :=
  obj (table.toList.map fun (name, value) => (name, encode value))

/-- The value of a member, if this is an object that has it. -/
def member? (name : String) : Json → Option Json
  | obj members => members.lookup name
  | _ => none

/-- Whether this is an object. -/
def isObject : Json → Bool
  | obj _ => true
  | _ => false

/-- The value as a signed 64-bit integer, if it is one. -/
def int64? : Json → Option Int
  | int n => if Int64.minValue.toInt ≤ n ∧ n ≤ Int64.maxValue.toInt then some n else none
  | _ => none

/-- A text, or null where there is none. -/
def ofText? : Option String → Json
  | some text => str text
  | none => null

/-- A natural number as a value. -/
def nat (n : Nat) : Json :=
  int n

end Json

end StoryEngine

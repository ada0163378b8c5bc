import Std.Data.ExtTreeMap

/-!
# Tables

Maps from texts to values. Two tables with the same entries are equal, whatever the order in which
the entries were put in, and the entries are listed in the order of their keys.
-/

namespace StoryEngine

/-- A map keyed by text. -/
abbrev Table (α : Type) := Std.ExtTreeMap String α

namespace Table

variable {α β : Type}

/-- The table of a list of entries; the last of several entries with one key counts. -/
def ofEntries (entries : List (String × α)) : Table α :=
  Std.ExtTreeMap.ofList entries

/-- The entries of a table make the table again, in whatever order they are put in. -/
theorem ofEntries_of_perm {table : Table α} {entries : List (String × α)}
    (hperm : entries.Perm table.toList) : ofEntries entries = table := by
  have hdistinct : entries.Pairwise fun a b => ¬ compare a.1 b.1 = .eq :=
    table.distinct_keys_toList.perm hperm.symm fun hne heq => hne (Std.OrientedCmp.eq_symm heq)
  refine Std.ExtTreeMap.ext_getElem? fun key => ?_
  cases hvalue : table[key]? with
  | some value =>
    have hmem : (key, value) ∈ entries :=
      hperm.mem_iff.mpr (Std.ExtTreeMap.mem_toList_iff_getElem?_eq_some.mpr hvalue)
    exact Std.ExtTreeMap.getElem?_ofList_of_mem Std.ReflCmp.compare_self hdistinct hmem
  | none =>
    have hkey : (entries.map Prod.fst).contains key = false := by
      refine Bool.eq_false_iff.mpr fun hkey => ?_
      obtain ⟨entry, hentry, rfl⟩ := List.mem_map.mp (List.contains_iff_mem.mp hkey)
      have hfound := Std.ExtTreeMap.mem_toList_iff_getElem?_eq_some.mp (hperm.mem_iff.mp hentry)
      rw [hvalue] at hfound
      cases hfound
    exact Std.ExtTreeMap.getElem?_ofList_of_contains_eq_false hkey

/-- What a table of entries has under a key is one of the entries. -/
theorem mem_of_getElem?_ofEntries {entries : List (String × α)} {key : String} {value : α}
    (h : (ofEntries entries)[key]? = some value) : (key, value) ∈ entries := by
  rw [ofEntries, Std.ExtTreeMap.ofList_eq_insertMany_empty,
    Std.ExtTreeMap.getElem?_insertMany_list] at h
  have hfound : entries.findSomeRev? (fun entry =>
      if compare entry.1 key = .eq then some entry.2 else none) = some value := by
    simpa using h
  rw [List.findSomeRev?_eq_findSome?_reverse] at hfound
  obtain ⟨entry, hentry, hif⟩ := List.exists_of_findSome?_eq_some hfound
  split at hif
  · rename_i hkey
    cases hif
    obtain rfl := Std.LawfulEqCmp.compare_eq_iff_eq.mp hkey
    exact List.mem_reverse.mp hentry
  · cases hif

/-- The table with a function applied to its values. -/
def mapValues (f : α → β) (table : Table α) : Table β :=
  table.map fun _ value => f value

@[simp]
theorem getElem?_mapValues (f : α → β) (table : Table α) (key : String) :
    (table.mapValues f)[key]? = table[key]?.map f :=
  Std.ExtTreeMap.getElem?_map

@[simp]
theorem mem_mapValues {f : α → β} {table : Table α} {key : String} :
    key ∈ table.mapValues f ↔ key ∈ table :=
  Std.ExtTreeMap.mem_map

theorem toList_mapValues (f : α → β) (table : Table α) :
    (table.mapValues f).toList = table.toList.map fun (key, value) => (key, f value) :=
  Std.ExtTreeMap.toList_map

@[simp]
theorem mapValues_empty (f : α → β) : (∅ : Table α).mapValues f = ∅ :=
  rfl

@[simp]
theorem mapValues_id (table : Table α) : table.mapValues id = table :=
  Std.ExtTreeMap.map_id

/-- A function that keeps every value of a table keeps the table. -/
theorem mapValues_eq_self_iff {f : α → α} {table : Table α} :
    table.mapValues f = table ↔
      ∀ (key : String) (value : α), table[key]? = some value → f value = value := by
  constructor
  · intro h key value hvalue
    have hsame : table[key]?.map f = table[key]? := by
      rw [← getElem?_mapValues, h]
    rw [hvalue] at hsame
    exact Option.some.inj hsame
  · intro h
    refine Std.ExtTreeMap.ext_getElem? fun key => ?_
    rw [getElem?_mapValues]
    cases hvalue : table[key]? with
    | none => rfl
    | some value => rw [Option.map_some, h key value hvalue]

end Table

end StoryEngine

import StoryEngine.Proofs.CaseMap.Reading
import StoryEngine.Proofs.Json.Rereading

/-!
# Writing case-insensitive maps

A map is written as an object whose members are its entries, under their spellings and in any order.
It has no two entries that differ in case only, so that the members make one document, of which
every reading is the map again.
-/

namespace StoryEngine

variable {α : Type}

namespace Table

/-- Entries with names of their own are all in the table that is made of them. -/
theorem toList_ofEntries_perm {entries : List (String × α)}
    (hnodup : (entries.map Prod.fst).Nodup) : (ofEntries entries).toList.Perm entries := by
  have hkeys : ((ofEntries entries).toList.map Prod.fst).Nodup := by
    rw [Std.ExtTreeMap.map_fst_toList_eq_keys]
    exact Std.ExtTreeMap.nodup_keys ..
  refine (List.perm_ext_iff_of_nodup hkeys.of_map hnodup.of_map).mpr fun (key, value) => ?_
  rw [Std.ExtTreeMap.mem_toList_iff_getElem?_eq_some]
  refine ⟨mem_of_getElem?_ofEntries, fun hentry => ?_⟩
  have hdistinct : entries.Pairwise fun a b => ¬ compare a.1 b.1 = .eq :=
    (List.pairwise_map.mp hnodup).imp fun hne heq => hne (Std.LawfulEqCmp.compare_eq_iff_eq.mp heq)
  exact Std.ExtTreeMap.getElem?_ofList_of_mem Std.ReflCmp.compare_self hdistinct hentry

end Table

namespace CaseMap

/-- An object as which a map may be written: its members are the entries, in some order. -/
def IsWriting (encode : α → Json.Raw) (map : CaseMap α) (raw : Json.Raw) : Prop :=
  ∃ order : List (String × α), order.Perm map.toList ∧
    raw.shape = .obj (order.map fun (key, value) => (key, encode value))

variable {map : CaseMap α} {writes : List (Write α)}

/-- No two spellings of a map are the same. -/
theorem Holds.nodup_spellings (h : map.Holds writes) : (map.toList.map Prod.fst).Nodup := by
  have hforms := h.nodup_keyForm_toList
  rw [← Function.comp_def keyForm Prod.fst, ← List.map_map] at hforms
  exact hforms.of_map

/-- The object of a map is a writing of it, in the order of the spellings. -/
theorem Holds.isWriting_toJson (h : map.Holds writes) (encode : α → Json) :
    IsWriting (fun value => .value (encode value)) map (.value (map.toJson encode)) := by
  have hperm := Table.toList_ofEntries_perm h.nodup_spellings
  have htable : Table.ofEntries (map.toList.map fun (key, value) => (key, encode value)) =
      (Table.ofEntries map.toList).mapValues encode := by
    refine Table.ofEntries_of_perm ?_
    rw [Table.toList_mapValues]
    exact (hperm.map _).symm
  refine ⟨_, hperm, ?_⟩
  simp only [toJson, Json.ofEntries, htable, Table.toList_mapValues, Json.Raw.shape, List.map_map]
  rfl

/-- A writing has a member for each entry of the map, and no two of them differ in case only. -/
theorem IsWriting.members {encode : α → Json.Raw} {raw : Json.Raw} (h : map.Holds writes)
    (hwriting : IsWriting encode map raw) :
    ∃ members, raw.shape = .obj members ∧ members.length = map.size ∧
      (members.map fun member => keyForm member.1).Nodup := by
  obtain ⟨order, hperm, hshape⟩ := hwriting
  refine ⟨_, hshape, ?_, ?_⟩
  · rw [List.length_map, hperm.length_eq, toList, List.length_map, Std.ExtTreeMap.length_toList,
      size]
  · rw [List.map_map]
    exact (hperm.map _).nodup_iff.mpr h.nodup_keyForm_toList

/-- If the values of a map are read as they were written, so is the map. -/
theorem IsWriting.table_eq_ok {encode : α → Json.Raw} {read : Json.Raw → Json.Decoded α}
    {raw : Json.Raw} (h : map.Holds writes) (hwriting : IsWriting encode map raw)
    (hread : ∀ entry ∈ map.toList, read (encode entry.2) = .ok entry.2) :
    ∃ document, raw.table read = .ok document ∧ document.toList.Perm map.toList := by
  obtain ⟨order, hperm, hshape⟩ := hwriting
  refine ⟨.ofEntries order, ?_, ?_⟩
  · have hvalues := Json.Raw.readMemberValues_eq_ok encode id fun entry hentry =>
      hread entry (hperm.mem_iff.mp hentry)
    have hsame : order.map (fun (name, item) => (name, id item)) = order := List.map_id order
    rw [hsame] at hvalues
    simp only [Json.Raw.table, hshape, hvalues]
    rfl
  · exact (Table.toList_ofEntries_perm ((hperm.map _).nodup_iff.mpr h.nodup_spellings)).trans hperm

/-- A document of the entries of a map has the map as its one reading. -/
theorem Holds.isReading_iff (h : map.Holds writes) {document : Table α}
    (hdocument : document.toList.Perm map.toList) (other : CaseMap α) :
    IsReading document other ↔ other = map := by
  constructor
  · rintro ⟨order, horder, rfl⟩
    exact h.ofList_eq (horder.trans hdocument)
  · rintro rfl
    exact ⟨_, .refl _, (h.ofList_eq hdocument).symm⟩

/-- A map that operations leave is written under spellings of which no two differ in case only, as
many as it has entries, in whatever order they come. If its values are read as they were written,
the document has all its entries, and whatever the order in which they are put in, the map that is
read is the one that was written, with its spellings. The object of a map is one of its
writings. -/
theorem written_map_reads_back (operations : List (Operation α)) (encode : α → Json.Raw)
    (read : Json.Raw → Json.Decoded α) :
    let map := empty.performAll operations
    (∀ raw, IsWriting encode map raw →
      (∃ members, raw.shape = .obj members ∧ members.length = map.size ∧
        (members.map fun member => keyForm member.1).Nodup) ∧
      ((∀ entry ∈ map.toList, read (encode entry.2) = .ok entry.2) →
        ofRaw read raw = .ok map ∧
        ∃ document, raw.table read = .ok document ∧ document.toList.Perm map.toList ∧
          ∀ other, IsReading document other ↔ other = map)) ∧
    ∀ write : α → Json,
      IsWriting (fun value => .value (write value)) map (.value (map.toJson write)) := by
  intro map
  have hholds := holds_performAll operations
  refine ⟨fun raw hwriting => ⟨hwriting.members hholds, fun hread => ?_⟩, hholds.isWriting_toJson⟩
  obtain ⟨document, htable, hdocument⟩ := hwriting.table_eq_ok hholds hread
  refine ⟨?_, document, htable, hdocument, hholds.isReading_iff hdocument⟩
  rw [ofRaw, htable, Except.map, hholds.ofList_eq hdocument]

/-- A map whose token was put in again under another spelling is read back from an object that lists
the token first. -/
theorem respelled_token_reads_back :
    let operations : List (Operation Json) := [.collect [("Region", .str "eu"), ("token", .int 1)],
      .remove "REGION", .insert "TOKEN" (.int 2), .insert "DB_Host" .null]
    let map := empty.performAll operations
    let raw : Json.Raw := .obj [("TOKEN", .value (.int 2)), ("DB_Host", .value .null)]
    IsWriting .value map raw ∧
      (∀ entry ∈ map.toList, Json.Raw.json (.value entry.2) = .ok entry.2) ∧
      ofRaw Json.Raw.json raw = .ok map ∧
      map.toList = [("DB_Host", .null), ("TOKEN", .int 2)] := by
  intro operations map raw
  have hlisted : map.toList = [("DB_Host", .null), ("TOKEN", .int 2)] := by decide +kernel
  have hwriting : IsWriting .value map raw := by
    refine ⟨[("TOKEN", .int 2), ("DB_Host", .null)], ?_, rfl⟩
    rw [hlisted]
    exact .swap _ _ _
  have hread : ∀ entry ∈ map.toList, Json.Raw.json (.value entry.2) = .ok entry.2 :=
    fun _ _ => rfl
  exact ⟨hwriting, hread,
    (((written_map_reads_back operations .value Json.Raw.json).1 raw hwriting).2 hread).1, hlisted⟩

end CaseMap

end StoryEngine

import StoryEngine.Json.Record
import StoryEngine.Proofs.Success

/-!
# Reading what was written

A reader and a writer of one type belong together when every value that is written can be read. The
value that is read need not be the one that was written: a type may have two values that are spelled
alike. What has been read once, however, stays as it is. This holds of texts, words and opaque data,
and goes from a type to its lists, its tables and the records that have it in a field.
-/

namespace StoryEngine.Json

variable {α : Type} {read : Raw → Decoded α} {write : α → Json} {again : α → α}

/-- What is written is read as `again` says, and `again` keeps what has been read. -/
structure Rereads (read : Raw → Decoded α) (write : α → Json) (again : α → α) : Prop where
  read_write (value : α) : read (.value (write value)) = .ok (again value)
  kept {raw : Raw} {value : α} (hread : read raw = .ok value) : again value = value

/-- What has been read once is read again as it is. -/
theorem Rereads.read_write_of_read (h : Rereads read write again) {raw : Raw} {value : α}
    (hread : read raw = .ok value) : read (.value (write value)) = .ok value := by
  rw [h.read_write, h.kept hread]

/-- A value is read as it was written exactly if `again` keeps it. -/
theorem Rereads.read_write_eq_iff (h : Rereads read write again) (value : α) :
    read (.value (write value)) = .ok value ↔ again value = value := by
  rw [h.read_write, Except.ok.injEq]

/-! ## Plain values -/

theorem rereads_text : Rereads Raw.text .str id :=
  ⟨fun _ => rfl, fun _ => rfl⟩

theorem rereads_json : Rereads Raw.json id id :=
  ⟨fun _ => rfl, fun _ => rfl⟩

theorem rereads_word16 : Rereads Raw.word16 (fun word => .nat word.toNat) id := by
  refine ⟨fun word => ?_, fun _ => rfl⟩
  have hlimit : word.toNat ≤ UInt16.size - 1 := Nat.le_pred_of_lt word.toNat_lt_size
  have hnat : Raw.natUpTo (UInt16.size - 1) (.value (.nat word.toNat)) = .ok word.toNat :=
    if_pos hlimit
  rw [Raw.word16, hnat]
  exact congrArg Except.ok UInt16.ofNat_toNat

/-! ## Values that may be absent -/

/-- Only null shows itself as null. -/
theorem Raw.shape_value_eq_null {json : Json} (h : (Raw.value json).shape = .null) :
    json = .null := by
  cases json <;> cases h
  rfl

/-- Something other than null is not taken for an absent value. -/
theorem Raw.option_value {json : Json} (h : json ≠ .null) :
    Raw.option read (.value json) = (read (.value json)).map some := by
  unfold Raw.option
  split
  · rename_i hnull
    exact absurd (Raw.shape_value_eq_null hnull) h
  · rfl

/-- A type may be written with null for absence if no value of it is written as null. -/
theorem Rereads.option (h : Rereads read write again) (writeOption : Option α → Json)
    (hvalue : ∀ value, write value ≠ .null) (hnone : writeOption none = .null)
    (hsome : ∀ value, writeOption (some value) = write value) :
    Rereads (Raw.option read) writeOption (Option.map again) where
  read_write value := by
    cases value with
    | none => rw [hnone]; rfl
    | some value => rw [hsome, Raw.option_value (hvalue value), h.read_write]; rfl
  kept {raw value} hread := by
    unfold Raw.option at hread
    split at hread
    · cases hread
      rfl
    · obtain ⟨inner, hinner, rfl⟩ := map_eq_ok.mp hread
      rw [Option.map_some, h.kept hinner]

/-- A text or null is read as it was written. -/
theorem rereads_optionText : Rereads (Raw.option Raw.text) .ofText? id := by
  have h := rereads_text.option .ofText? nofun rfl fun _ => rfl
  rwa [Option.map_id] at h

/-- Only null has null as its value. -/
theorem Raw.shape_eq_null {raw : Raw} (h : Raw.json raw = .ok .null) : raw.shape = .null := by
  unfold Raw.json at h
  cases raw with
  | value json =>
    cases h
    rfl
  | arr items =>
    rw [Raw.toJson?] at h
    cases hitems : Raw.itemsToJson? items <;> rw [hitems] at h <;> cases h
  | obj members =>
    rw [Raw.toJson?] at h
    cases hmembers : Raw.membersToJson? members <;> rw [hmembers] at h <;> cases h
  | unreadable => cases h

/-- Opaque data that is null comes back as absent, so that `Rereads.option` does not apply to it. -/
theorem rereads_option_json :
    Rereads (Raw.option Raw.json) (fun value => value.getD .null)
      (Option.filter fun json => json ≠ .null) where
  read_write value := by
    cases value with
    | none => rfl
    | some json =>
      by_cases hnull : json = .null
      · subst hnull
        rfl
      · have hread : Raw.json (.value json) = .ok json := rfl
        rw [Option.getD_some, Raw.option_value hnull, hread]
        simp [Except.map, Option.filter, hnull]
  kept {raw value} hread := by
    unfold Raw.option at hread
    split at hread
    · cases hread
      rfl
    · rename_i hshape
      obtain ⟨json, hjson, rfl⟩ := map_eq_ok.mp hread
      have hnull : json ≠ .null := by
        rintro rfl
        exact hshape (Raw.shape_eq_null hjson)
      simp [Option.filter, hnull]

/-! ## Lists and tables -/

/-- A list is read item by item. -/
theorem Raw.exists_item_of_mapM {items : List Raw} {values : List α}
    (h : items.mapM read = .ok values) :
    ∀ value ∈ values, ∃ item ∈ items, read item = .ok value := by
  induction items generalizing values with
  | nil =>
    cases h
    exact nofun
  | cons item items ih =>
    rw [List.mapM_cons] at h
    obtain ⟨first, hfirst, h⟩ := bind_eq_ok.mp h
    obtain ⟨rest, hrest, hvalues⟩ := bind_eq_ok.mp h
    cases hvalues
    intro value hvalue
    rcases List.mem_cons.mp hvalue with rfl | hvalue
    · exact ⟨item, List.mem_cons_self .., hfirst⟩
    · obtain ⟨other, hother, hread⟩ := ih hrest value hvalue
      exact ⟨other, List.mem_cons_of_mem _ hother, hread⟩

theorem Rereads.items (h : Rereads read write again) :
    Rereads (Raw.items read) (fun values => .arr (values.map write)) (List.map again) where
  read_write values := by
    change ((values.map write).map Raw.value).mapM read = _
    rw [List.map_map]
    exact mapM_map_eq_ok fun value _ => h.read_write value
  kept {raw values} hread := by
    unfold Raw.items at hread
    split at hread
    · have hkept : ∀ value ∈ values, again value = id value := by
        intro value hvalue
        obtain ⟨_, _, hitem⟩ := Raw.exists_item_of_mapM hread value hvalue
        exact h.kept hitem
      rw [List.map_congr_left hkept, List.map_id]
    · cases hread

/-- A table is read member by member. -/
theorem Raw.exists_member_of_readMemberValues {members : List (String × Raw)}
    {values : List (String × α)} (h : Raw.readMemberValues read members = .ok values) :
    ∀ value ∈ values, ∃ member ∈ members, read member.2 = .ok value.2 := by
  induction members generalizing values with
  | nil =>
    cases h
    exact nofun
  | cons member members ih =>
    obtain ⟨first, hfirst, h⟩ := bind_eq_ok.mp h
    obtain ⟨rest, hrest, hvalues⟩ := bind_eq_ok.mp h
    cases hvalues
    intro value hvalue
    rcases List.mem_cons.mp hvalue with rfl | hvalue
    · exact ⟨member, List.mem_cons_self .., hfirst⟩
    · obtain ⟨other, hother, hread⟩ := ih hrest value hvalue
      exact ⟨other, List.mem_cons_of_mem _ hother, hread⟩

/-- Members are read one by one, each as the value of its entry is. -/
theorem Raw.readMemberValues_eq_ok (encode : α → Raw) (again : α → α)
    {entries : List (String × α)}
    (hread : ∀ entry ∈ entries, read (encode entry.2) = .ok (again entry.2)) :
    Raw.readMemberValues read (entries.map fun (name, item) => (name, encode item)) =
      .ok (entries.map fun (name, item) => (name, again item)) := by
  induction entries with
  | nil => rfl
  | cons entry entries ih =>
    have hfirst := hread entry (List.mem_cons_self ..)
    have hlater := ih fun other hother => hread other (List.mem_cons_of_mem entry hother)
    simp only [List.map_cons, Raw.readMemberValues, hfirst, hlater]
    rfl

/-- The members of a table that was written are read one by one. -/
theorem Rereads.readMemberValues (h : Rereads read write again) (entries : List (String × α)) :
    Raw.readMemberValues read (entries.map fun (name, value) => (name, .value (write value))) =
      .ok (entries.map fun (name, value) => (name, again value)) :=
  Raw.readMemberValues_eq_ok (fun value => .value (write value)) again
    fun entry _ => h.read_write entry.2

theorem Rereads.table (h : Rereads read write again) :
    Rereads (Raw.table read) (Json.ofTableWith write) (Table.mapValues again) where
  read_write table := by
    have hread : Raw.table read (.value (Json.ofTableWith write table)) =
        .ok (Table.ofEntries (table.toList.map fun (name, value) => (name, again value))) := by
      simp only [Raw.table, Json.ofTableWith, Raw.shape, List.map_map, Function.comp_def,
        h.readMemberValues]
      rfl
    rw [hread, Table.ofEntries_of_perm (.of_eq (Table.toList_mapValues ..).symm)]
  kept {raw table} hread := by
    unfold Raw.table at hread
    split at hread
    · obtain ⟨values, hvalues, rfl⟩ := map_eq_ok.mp hread
      refine Table.mapValues_eq_self_iff.mpr fun name value hvalue => ?_
      have hmem : (name, value) ∈ values := Table.mem_of_getElem?_ofEntries hvalue
      obtain ⟨_, _, hmember⟩ := Raw.exists_member_of_readMemberValues hvalues _ hmem
      exact h.kept hmember
    · cases hread

/-! ## Records -/

/-- No name is repeated in a list without duplicates. -/
theorem firstRepeated?_eq_none {names : List String} (h : names.Nodup) :
    firstRepeated? names = none := by
  induction names with
  | nil => rfl
  | cons name names ih =>
    obtain ⟨hname, hnames⟩ := List.nodup_cons.mp h
    rw [firstRepeated?, if_neg hname, ih hnames]

/-- The fields of a record that was written with these members. -/
def Fields.ofMembers (members : List (String × Json)) : Fields :=
  members.map fun member => (member.1, .value member.2)

/-- The members of a record that was written are its fields, if they are fields at all and each of
them is given once. -/
theorem Raw.record_obj {names : List String} {members : List (String × Json)}
    (hnames : ∀ name ∈ members.map Prod.fst, name ∈ names)
    (hnodup : (members.map Prod.fst).Nodup) :
    Raw.record names (.value (.obj members)) = .ok (Fields.ofMembers members) := by
  have hshape : (Raw.value (.obj members)).shape = .obj (Fields.ofMembers members) := rfl
  have hkept : (Fields.ofMembers members).filter (fun field => field.1 ∈ names) =
      Fields.ofMembers members := by
    refine List.filter_eq_self.mpr fun field hfield => ?_
    obtain ⟨member, hmember, rfl⟩ := List.mem_map.mp hfield
    exact decide_eq_true (hnames _ (List.mem_map_of_mem hmember))
  have hfields : (Fields.ofMembers members).map Prod.fst = members.map Prod.fst := by
    rw [Fields.ofMembers, List.map_map]
    rfl
  simp only [Raw.record, hshape, hkept, hfields, firstRepeated?_eq_none hnodup]

namespace Fields

variable {fields : Fields} {members : List (String × Json)} {name : String} {value default : α}

/-- A member that was written is found among the fields. -/
theorem lookup_ofMembers (members : List (String × Json)) (name : String) :
    (ofMembers members).lookup name = (members.lookup name).map .value := by
  induction members with
  | nil => rfl
  | cons member members ih =>
    have hcons : ofMembers (member :: members) =
        (member.1, .value member.2) :: ofMembers members := rfl
    rw [hcons, List.lookup_cons, List.lookup_cons, ih]
    split <;> rfl

theorem required_written (h : Rereads read write again)
    (hmember : members.lookup name = some (write value)) :
    (ofMembers members).required name read = .ok (again value) := by
  rw [required, lookup_ofMembers, hmember]
  exact h.read_write value

theorem withDefault_written (h : Rereads read write again)
    (hmember : members.lookup name = some (write value)) :
    (ofMembers members).withDefault name default read = .ok (again value) := by
  rw [withDefault, lookup_ofMembers, hmember]
  exact h.read_write value

theorem kept_of_required (h : Rereads read write again)
    (hread : fields.required name read = .ok value) : again value = value := by
  unfold required at hread
  split at hread
  · exact h.kept hread
  · cases hread

theorem kept_of_withDefault (h : Rereads read write again) (hdefault : again default = default)
    (hread : fields.withDefault name default read = .ok value) : again value = value := by
  unfold withDefault at hread
  split at hread
  · exact h.kept hread
  · cases hread
    exact hdefault

end Fields

end StoryEngine.Json

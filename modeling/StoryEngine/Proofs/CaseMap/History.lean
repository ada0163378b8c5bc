import StoryEngine.CaseMap
import StoryEngine.Proofs.Lasting

/-!
# What a case-insensitive map holds after a history

The operations on a map come down to writes: a key is put in or taken out, or everything is dropped.
Under each form a map holds the entry that was put in last, in the spelling of that time, unless the
form was taken out since. What the operations answer can be told from the writes before them.
-/

namespace StoryEngine.CaseMap

variable {α : Type}

/-- A change to a map. -/
inductive Write (α : Type) where
  /-- Drops every entry. -/
  | reset
  | insert (key : String) (value : α)
  | remove (key : String)

/-- Whether a write leaves what is held under a form as it is. -/
def Write.Spares (form : String) : Write α → Prop
  | reset => False
  | insert key _ | remove key => keyForm key ≠ form

/-- Whether an entry is live under a form after some writes: it was put in under this form, and no
write after that has to do with the form. -/
def Live (writes : List (Write α)) (form key : String) (value : α) : Prop :=
  ∃ earlier later, writes = earlier ++ .insert key value :: later ∧ keyForm key = form ∧
    ∀ write ∈ later, write.Spares form

/-- Carries a write out. -/
def write (map : CaseMap α) : Write α → CaseMap α
  | .reset => empty
  | .insert key value => map.insert key value
  | .remove key => map.erase key

/-- Whether a map holds under each form the entry that is live there. -/
def Holds (map : CaseMap α) (writes : List (Write α)) : Prop :=
  ∀ (form key : String) (value : α),
    map.entries[form]? = some (key, value) ↔ Live writes form key value

/-- An operation on a map. -/
inductive Operation (α : Type) where
  /-- Makes a new map of some entries, which are put in one after another. -/
  | collect (entries : List (String × α))
  | insert (key : String) (value : α)
  | remove (key : String)
  | get (key : String)
  | contains (key : String)
  | size
  | isEmpty
  | iterate

/-- The writes that an operation comes down to. -/
def Operation.writes : Operation α → List (Write α)
  | collect entries => .reset :: entries.map fun (key, value) => .insert key value
  | insert key value => [.insert key value]
  | remove key => [.remove key]
  | get _ | contains _ | size | isEmpty | iterate => []

/-- An answer to an operation. -/
inductive Answer (α : Type) where
  | done
  | value (found : Option α)
  | flag (holds : Bool)
  | count (number : Nat)
  | listed (entries : List (String × α))
  deriving DecidableEq

/-- Carries an operation out: the answer, and the map that is left. -/
def perform (map : CaseMap α) : Operation α → Answer α × CaseMap α
  | .collect entries => (.done, ofList entries)
  | .insert key value => (.value (map.put key value).1, (map.put key value).2)
  | .remove key => (.value (map.take key).1, (map.take key).2)
  | .get key => (.value (map.get? key), map)
  | .contains key => (.flag (map.contains key), map)
  | .size => (.count map.size, map)
  | .isEmpty => (.flag map.isEmpty, map)
  | .iterate => (.listed map.toList, map)

/-- The map that some operations leave, one after another. -/
def performAll (map : CaseMap α) (operations : List (Operation α)) : CaseMap α :=
  operations.foldl (fun map operation => (map.perform operation).2) map

/-- Whether a value is the live one under the form of a key, if there is one. -/
def IsCurrent (writes : List (Write α)) (key : String) (found : Option α) : Prop :=
  ∀ value, found = some value ↔ ∃ spelling, Live writes (keyForm key) spelling value

/-- Whether the answer to an operation is right after some writes. -/
def Operation.Answered (writes : List (Write α)) : Operation α → Answer α → Prop
  | collect _, .done => True
  -- What was there before is given back by both changes of one key.
  | insert key _, .value found | remove key, .value found | get key, .value found =>
    IsCurrent writes key found
  | contains key, .flag holds =>
    holds = true ↔ ∃ spelling value, Live writes (keyForm key) spelling value
  | size, .count number =>
    ∃ forms : List String, forms.Nodup ∧ number = forms.length ∧
      ∀ form, form ∈ forms ↔ ∃ key value, Live writes form key value
  | isEmpty, .flag holds => holds = true ↔ ∀ form key value, ¬ Live writes form key value
  -- The entries may be listed in any order.
  | iterate, .listed entries =>
    ∀ order : List (String × α), order.Perm entries →
      (order.map fun entry => keyForm entry.1).Nodup ∧
        ∀ key value, (key, value) ∈ order ↔ Live writes (keyForm key) key value
  | _, _ => False

/-- What is live is an insertion under the form that lasts. -/
theorem live_iff_lasts {writes : List (Write α)} {form key : String} {value : α} :
    Live writes form key value ↔
      keyForm key = form ∧ Lasts (Write.Spares form) writes (.insert key value) := by
  constructor
  · rintro ⟨earlier, later, hsplit, hform, hlater⟩
    exact ⟨hform, earlier, later, hsplit, hlater⟩
  · rintro ⟨hform, earlier, later, hsplit, hlater⟩
    exact ⟨earlier, later, hsplit, hform, hlater⟩

/-- Nothing is live before the first write. -/
theorem not_live_nil {form key : String} {value : α} : ¬ Live [] form key value :=
  fun hlive => not_lasts_nil (live_iff_lasts.mp hlive).2

/-- The last write puts an entry in, or else spares one that is live before it. -/
theorem live_concat {writes : List (Write α)} {last : Write α} {form key : String} {value : α} :
    Live (writes ++ [last]) form key value ↔
      (last = .insert key value ∧ keyForm key = form) ∨
        (last.Spares form ∧ Live writes form key value) := by
  rw [live_iff_lasts, live_iff_lasts, lasts_concat]
  constructor
  · rintro ⟨hform, hlast | ⟨hspares, hlasts⟩⟩
    · exact .inl ⟨hlast, hform⟩
    · exact .inr ⟨hspares, hform, hlasts⟩
  · rintro (⟨hlast, hform⟩ | ⟨hspares, hform, hlasts⟩)
    · exact ⟨hform, .inl hlast⟩
    · exact ⟨hform, .inr ⟨hspares, hlasts⟩⟩

theorem holds_empty : Holds (empty : CaseMap α) [] := by
  intro form key value
  refine iff_of_false ?_ not_live_nil
  simp [empty]

/-- A write leaves what is live after it. -/
theorem Holds.write {map : CaseMap α} {writes : List (Write α)} (h : map.Holds writes)
    (last : Write α) : (map.write last).Holds (writes ++ [last]) := by
  intro form key value
  rw [live_concat]
  cases last with
  | reset =>
    refine iff_of_false (by simp [CaseMap.write, empty]) ?_
    rintro (⟨⟨⟩, -⟩ | ⟨⟨⟩, -⟩)
  | insert other put =>
    simp only [CaseMap.write, CaseMap.insert, Std.ExtTreeMap.getElem?_insert,
      Std.LawfulEqCmp.compare_eq_iff_eq, Write.Spares, Write.insert.injEq]
    by_cases hform : keyForm other = form
    · simp only [hform, if_true, Option.some.injEq, Prod.mk.injEq, ne_eq, not_true_eq_false,
        false_and, or_false]
      constructor
      · rintro ⟨rfl, rfl⟩
        exact ⟨⟨rfl, rfl⟩, hform⟩
      · exact And.left
    · simp only [hform, if_false, h form key value, ne_eq, not_false_eq_true, true_and]
      refine (or_iff_right ?_).symm
      rintro ⟨⟨rfl, -⟩, heq⟩
      exact hform heq
  | remove other =>
    simp only [CaseMap.write, CaseMap.erase, Std.ExtTreeMap.getElem?_erase,
      Std.LawfulEqCmp.compare_eq_iff_eq, Write.Spares, reduceCtorEq, false_and, false_or]
    by_cases hform : keyForm other = form
    · simp [hform]
    · simp [hform, h form key value]

/-- Writes leave what is live after them. -/
theorem Holds.writes {map : CaseMap α} {writes : List (Write α)} (h : map.Holds writes)
    (later : List (Write α)) : (later.foldl CaseMap.write map).Holds (writes ++ later) := by
  induction later generalizing map writes with
  | nil => simpa using h
  | cons first rest ih => simpa using ih (h.write first)

/-- An operation carries its writes out. -/
theorem perform_snd (map : CaseMap α) (operation : Operation α) :
    (map.perform operation).2 = operation.writes.foldl write map := by
  cases operation with
  | collect entries =>
    show entries.foldl _ empty = (entries.map _).foldl write empty
    rw [List.foldl_map]
    rfl
  | _ => rfl

/-- Operations leave what is live after their writes. -/
theorem Holds.performAll {map : CaseMap α} {writes : List (Write α)} (h : map.Holds writes)
    (operations : List (Operation α)) :
    (map.performAll operations).Holds (writes ++ operations.flatMap Operation.writes) := by
  induction operations generalizing map writes with
  | nil => simpa [CaseMap.performAll] using h
  | cons first rest ih =>
    have hfirst : (map.perform first).2.Holds (writes ++ first.writes) := by
      rw [perform_snd]
      exact h.writes _
    rw [List.flatMap_cons, ← List.append_assoc]
    exact ih hfirst

/-- Operations on a map that was empty at first leave what is live after their writes. -/
theorem holds_performAll (operations : List (Operation α)) :
    (empty.performAll operations).Holds (operations.flatMap Operation.writes) := by
  have hall := (holds_empty (α := α)).performAll operations
  rwa [List.nil_append] at hall

namespace Holds

variable {map : CaseMap α} {writes : List (Write α)}

/-- An entry is stored under the form of its spelling. -/
theorem keyForm_eq (h : map.Holds writes) {form key : String} {value : α}
    (hentry : map.entries[form]? = some (key, value)) : keyForm key = form := by
  obtain ⟨_, _, -, hform, -⟩ := (h form key value).mp hentry
  exact hform

/-- The value of a key is the live one. -/
theorem isCurrent_get? (h : map.Holds writes) (key : String) :
    IsCurrent writes key (map.get? key) := by
  intro value
  simp only [get?, Option.map_eq_some_iff, Prod.exists, h (keyForm key)]
  constructor
  · rintro ⟨spelling, _, hlive, rfl⟩
    exact ⟨spelling, hlive⟩
  · rintro ⟨spelling, hlive⟩
    exact ⟨spelling, value, hlive, rfl⟩

/-- A key is present if there is a live entry under its form. -/
theorem contains_iff (h : map.Holds writes) (key : String) :
    map.contains key = true ↔ ∃ spelling value, Live writes (keyForm key) spelling value := by
  rw [contains_eq_isSome_get?, Option.isSome_iff_exists]
  simp only [h.isCurrent_get? key _]
  exact exists_comm

/-- The forms of the listed entries are those under which the entries are stored. -/
theorem map_keyForm_toList (h : map.Holds writes) :
    (map.toList.map fun entry => keyForm entry.1) = map.entries.keys := by
  rw [toList, List.map_map, ← Std.ExtTreeMap.map_fst_toList_eq_keys]
  refine List.map_congr_left fun entry hentry => ?_
  exact h.keyForm_eq (Std.ExtTreeMap.mem_toList_iff_getElem?_eq_some.mp hentry)

/-- No form comes twice among the listed entries. -/
theorem nodup_keyForm_toList (h : map.Holds writes) :
    (map.toList.map fun entry => keyForm entry.1).Nodup := by
  rw [h.map_keyForm_toList]
  exact map.entries.nodup_keys

/-- The listed entries are the live ones. -/
theorem mem_toList (h : map.Holds writes) {key : String} {value : α} :
    (key, value) ∈ map.toList ↔ Live writes (keyForm key) key value := by
  rw [toList, List.mem_map, ← h (keyForm key)]
  constructor
  · rintro ⟨⟨form, entry⟩, hentry, rfl⟩
    have hstored := Std.ExtTreeMap.mem_toList_iff_getElem?_eq_some.mp hentry
    rw [h.keyForm_eq hstored]
    exact hstored
  · intro hstored
    exact ⟨(keyForm key, key, value), Std.ExtTreeMap.mem_toList_iff_getElem?_eq_some.mpr hstored,
      rfl⟩

/-- The listed entries are those that are stored under the forms of their spellings. -/
theorem mem_toList_iff (h : map.Holds writes) {key : String} {value : α} :
    (key, value) ∈ map.toList ↔ map.entries[keyForm key]? = some (key, value) :=
  h.mem_toList.trans (h ..).symm

/-- The forms under which entries are stored are the live ones. -/
theorem mem_keys (h : map.Holds writes) {form : String} :
    form ∈ map.entries.keys ↔ ∃ key value, Live writes form key value := by
  rw [Std.ExtTreeMap.mem_keys, Std.ExtTreeMap.mem_iff_isSome_getElem?, Option.isSome_iff_exists]
  simp only [Prod.exists, h form]

/-- A map is empty if nothing is live. -/
theorem isEmpty_iff (h : map.Holds writes) :
    map.isEmpty = true ↔ ∀ form key value, ¬ Live writes form key value := by
  have hkeys : map.isEmpty = true ↔ map.entries.keys = [] := by
    rw [isEmpty, ← Std.ExtTreeMap.isEmpty_keys, List.isEmpty_iff]
  rw [hkeys, List.eq_nil_iff_forall_not_mem]
  simp only [h.mem_keys, not_exists]

/-- Every operation is answered as the writes before it tell. -/
theorem answered (h : map.Holds writes) (operation : Operation α) :
    operation.Answered writes (map.perform operation).1 := by
  cases operation with
  | collect entries => trivial
  | insert key value => exact h.isCurrent_get? key
  | remove key => exact h.isCurrent_get? key
  | get key => exact h.isCurrent_get? key
  | contains key => exact h.contains_iff key
  | size =>
    refine ⟨map.entries.keys, map.entries.nodup_keys, ?_, fun form => h.mem_keys⟩
    exact Std.ExtTreeMap.length_keys.symm
  | isEmpty => exact h.isEmpty_iff
  | iterate =>
    intro order hperm
    refine ⟨(hperm.map _).nodup_iff.mpr h.nodup_keyForm_toList, fun key value => ?_⟩
    rw [hperm.mem_iff, h.mem_toList]

end Holds

/-- A map that is made of some entries holds what is live after they are put in. -/
theorem holds_ofList (entries : List (String × α)) :
    (ofList entries).Holds (Operation.collect entries).writes := by
  have hall := holds_performAll [Operation.collect entries]
  rwa [List.flatMap_singleton] at hall

/-- A map tells keys apart by their forms only. -/
structure TellsByForm (map : CaseMap α) (key other : String) : Prop where
  get? : map.get? key = map.get? other
  contains : map.contains key = map.contains other
  take : map.take key = map.take other

theorem tellsByForm (map : CaseMap α) {key other : String} (hform : keyForm key = keyForm other) :
    map.TellsByForm key other := by
  have hget : map.get? key = map.get? other := by rw [CaseMap.get?, hform, CaseMap.get?]
  constructor
  case get? => exact hget
  case contains => rw [CaseMap.contains, hform, CaseMap.contains]
  case take => rw [CaseMap.take, hget, erase, hform, CaseMap.take, erase]

/-- After any operations on a map that was empty at first, each entry is stored under the form of
its spelling, and what is stored under a form is the entry that was put in there last and not taken
out since. Every further operation is answered as this history tells, and looks at a key only
through its form. -/
theorem answers_tell_history (earlier : List (Operation α)) :
    let map := empty.performAll earlier
    let writes := earlier.flatMap Operation.writes
    (∀ (form key : String) (value : α), map.entries[form]? = some (key, value) →
      keyForm key = form) ∧
    map.Holds writes ∧
    (∀ operation : Operation α, operation.Answered writes (map.perform operation).1 ∧
      (map.perform operation).2.Holds (writes ++ operation.writes)) ∧
    ∀ key other : String, keyForm key = keyForm other → map.TellsByForm key other := by
  intro map writes
  have hholds : map.Holds writes := by
    have hall := (holds_empty (α := α)).performAll earlier
    rwa [List.nil_append] at hall
  refine ⟨fun _ _ _ => hholds.keyForm_eq, hholds, fun operation => ⟨hholds.answered operation, ?_⟩,
    fun _ _ => map.tellsByForm⟩
  rw [perform_snd]
  exact hholds.writes _

/-- A token that is put in under two spellings is held once, in the second one, and given back for a
third. The capital sigma that ends a word has the same form as the final sigma. -/
theorem token_is_respelled :
    let earlier : List (Operation Nat) := [.collect [("Region", 7), ("ΟΔΟΣ", 4)],
      .insert "token" 1, .remove "REGION", .insert "TOKEN" 2]
    let map := empty.performAll earlier
    let writes := earlier.flatMap Operation.writes
    (map.perform .iterate).1 = .listed [("TOKEN", 2), ("ΟΔΟΣ", 4)] ∧
      (map.perform (.insert "Token" 3)).1 = .value (some 2) ∧
      Operation.Answered writes (.insert "Token" 3) (.value (some 2)) ∧
      Live writes "token" "TOKEN" 2 ∧ map.get? "οδος" = map.get? "ΟΔΟΣ" := by
  intro earlier map writes
  obtain ⟨hfiled, hholds, hanswered, hforms⟩ := answers_tell_history earlier
  have hstored : map.entries["token"]? = some ("TOKEN", 2) := by decide +kernel
  have hput : (map.perform (.insert "Token" 3)).1 = .value (some 2) := by decide +kernel
  have hprevious := (hanswered (.insert "Token" 3)).1
  rw [hput] at hprevious
  refine ⟨by decide +kernel, hput, hprevious, (hholds "token" "TOKEN" 2).mp hstored,
    (hforms "οδος" "ΟΔΟΣ" ?_).get?⟩
  exact (hfiled (keyForm "οδος") "ΟΔΟΣ" 4 (by decide +kernel)).symm

end StoryEngine.CaseMap

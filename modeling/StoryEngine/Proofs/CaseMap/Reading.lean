import Mathlib.Data.List.Nodup
import StoryEngine.App.Release
import StoryEngine.Proofs.CaseMap.History
import StoryEngine.Proofs.Success

/-!
# Reading case-insensitive maps

A document has each key once in each spelling, and its members come in no order. A map that is made
of them keeps one spelling of each form, the one that comes last. So the order has a say in what is
read exactly where two keys of the document differ in case only.
-/

namespace StoryEngine

namespace CaseMap

variable {α : Type}

/-- A map that may be made of the members of a document, which come in some order. -/
def IsReading (document : Table α) (map : CaseMap α) : Prop :=
  ∃ order : List (String × α), order.Perm document.toList ∧ map = ofList order

/-- Whether no two keys of a document differ in case only. -/
def TellsApart (document : Table α) : Prop :=
  ∀ key ∈ document, ∀ other ∈ document, keyForm key = keyForm other → key = other

/-- Whether two maps cannot be told apart by what they answer. -/
structure Alike (map other : CaseMap α) : Prop where
  get? : ∀ key, map.get? key = other.get? key
  contains : ∀ key, map.contains key = other.contains key
  size : map.size = other.size
  entries : ∀ entry, entry ∈ map.toList ↔ entry ∈ other.toList

/-- The entries of a list take the place of those that a map had before. -/
theorem getElem?_foldl_insert (entries : List (String × α)) (map : CaseMap α) (form : String) :
    (entries.foldl (fun map (key, value) => map.insert key value) map).entries[form]? =
      (entries.reverse.find? fun entry => keyForm entry.1 = form).or map.entries[form]? := by
  induction entries generalizing map with
  | nil => rfl
  | cons first rest ih =>
    have hfirst : (map.insert first.1 first.2).entries[form]? =
        ([first].find? fun entry => keyForm entry.1 = form).or map.entries[form]? := by
      simp only [insert, Std.ExtTreeMap.getElem?_insert, Std.LawfulEqCmp.compare_eq_iff_eq,
        List.find?_singleton, decide_eq_true_eq]
      split <;> rfl
    rw [List.foldl_cons, ih, hfirst, List.reverse_cons, List.find?_append, Option.or_assoc]

/-- Under each form the last entry of a list is kept. -/
theorem getElem?_entries_ofList (entries : List (String × α)) (form : String) :
    (ofList entries).entries[form]? =
      entries.reverse.find? fun entry => keyForm entry.1 = form := by
  rw [ofList, getElem?_foldl_insert]
  simp [empty]

/-- Something is kept under the forms of a list, and under no other one. -/
theorem isSome_getElem?_ofList {entries : List (String × α)} {form : String} :
    (ofList entries).entries[form]?.isSome ↔ ∃ entry ∈ entries, keyForm entry.1 = form := by
  rw [getElem?_entries_ofList, List.find?_isSome]
  simp only [List.mem_reverse, decide_eq_true_eq]

/-- If no form comes twice in a list, all its entries are kept. -/
theorem getElem?_ofList_of_nodup {entries : List (String × α)}
    (hnodup : (entries.map fun entry => keyForm entry.1).Nodup) {form : String}
    {entry : String × α} :
    (ofList entries).entries[form]? = some entry ↔ entry ∈ entries ∧ keyForm entry.1 = form := by
  rw [getElem?_entries_ofList]
  constructor
  · intro hfound
    exact ⟨List.mem_reverse.mp (List.mem_of_find?_eq_some hfound),
      by simpa using List.find?_some hfound⟩
  · rintro ⟨hentry, hform⟩
    have hsome : (entries.reverse.find? fun entry => keyForm entry.1 = form).isSome := by
      rw [List.find?_isSome]
      exact ⟨entry, List.mem_reverse.mpr hentry, by simpa using hform⟩
    obtain ⟨other, hother⟩ := Option.isSome_iff_exists.mp hsome
    have hmem : other ∈ entries := List.mem_reverse.mp (List.mem_of_find?_eq_some hother)
    have hsame : keyForm other.1 = keyForm entry.1 := by
      rw [hform]
      simpa using List.find?_some hother
    obtain rfl : other = entry := List.inj_on_of_nodup_map hnodup hmem hentry hsame
    exact hother

/-- If no form comes twice in a list, its order does not matter. -/
theorem ofList_eq_of_perm {order other : List (String × α)} (hperm : order.Perm other)
    (hnodup : (order.map fun entry => keyForm entry.1).Nodup) : ofList order = ofList other := by
  have hentries : (ofList order).entries = (ofList other).entries := by
    refine Std.ExtTreeMap.ext_getElem? fun form => Option.ext fun entry => ?_
    rw [getElem?_ofList_of_nodup hnodup,
      getElem?_ofList_of_nodup ((hperm.map _).nodup_iff.mp hnodup), hperm.mem_iff]
  exact congrArg CaseMap.mk hentries

/-- A map that is made of some entries of another one stores them as that one does, in whatever order
they come. -/
theorem Holds.entries_ofList_filter {map : CaseMap α} {writes : List (Write α)}
    (h : map.Holds writes) (keep : String × α → Bool) {order : List (String × α)}
    (hperm : order.Perm map.toList) :
    (ofList (order.filter keep)).entries = map.entries.filter fun _ entry => keep entry := by
  have hnodup : ((order.filter keep).map fun entry => keyForm entry.1).Nodup :=
    ((hperm.map _).nodup_iff.mpr h.nodup_keyForm_toList).sublist (List.filter_sublist.map _)
  refine Std.ExtTreeMap.ext_getElem? fun form => Option.ext fun entry => ?_
  rw [getElem?_ofList_of_nodup hnodup, List.mem_filter, hperm.mem_iff, h.mem_toList_iff,
    Std.ExtTreeMap.getElem?_filter', Option.filter_eq_some_iff]
  constructor
  · rintro ⟨⟨hentry, hkeep⟩, rfl⟩
    exact ⟨hentry, hkeep⟩
  · rintro ⟨hentry, hkeep⟩
    obtain rfl := h.keyForm_eq hentry
    exact ⟨⟨hentry, hkeep⟩, rfl⟩

/-- The entries of a map make it again, in whatever order they come. -/
theorem Holds.ofList_eq {map : CaseMap α} {writes : List (Write α)} (h : map.Holds writes)
    {order : List (String × α)} (hperm : order.Perm map.toList) : ofList order = map := by
  have hentries := h.entries_ofList_filter (fun _ => true) hperm
  rw [List.filter_true, Std.ExtTreeMap.filter_eq_self_iff.mpr fun _ _ => rfl] at hentries
  exact congrArg CaseMap.mk hentries

/-- Which forms a map has, and how many, does not depend on the order of the entries. -/
theorem forms_of_perm {order other : List (String × α)} (hperm : order.Perm other) :
    (∀ key, (ofList order).contains key = (ofList other).contains key) ∧
      (ofList order).size = (ofList other).size := by
  have hsome (form : String) : (ofList order).entries[form]?.isSome =
      (ofList other).entries[form]?.isSome := by
    rw [Bool.eq_iff_iff, isSome_getElem?_ofList, isSome_getElem?_ofList]
    simp only [hperm.mem_iff]
  constructor
  · intro key
    rw [contains, contains, Std.ExtTreeMap.contains_eq_isSome_getElem?,
      Std.ExtTreeMap.contains_eq_isSome_getElem?, hsome]
  · have hkeys : (ofList order).entries.keys.Perm (ofList other).entries.keys := by
      refine (List.perm_ext_iff_of_nodup (Std.ExtTreeMap.nodup_keys ..)
        (Std.ExtTreeMap.nodup_keys ..)).mpr fun form => ?_
      rw [Std.ExtTreeMap.mem_keys, Std.ExtTreeMap.mem_keys,
        Std.ExtTreeMap.mem_iff_isSome_getElem?, Std.ExtTreeMap.mem_iff_isSome_getElem?, hsome]
    rw [size, size, ← Std.ExtTreeMap.length_keys, ← Std.ExtTreeMap.length_keys]
    exact hkeys.length_eq

section

variable {document : Table α} {map other : CaseMap α}

/-- If a document tells its keys apart, no form comes twice, in whatever order its members come. -/
theorem TellsApart.nodup (h : TellsApart document) {order : List (String × α)}
    (hperm : order.Perm document.toList) : (order.map fun entry => keyForm entry.1).Nodup := by
  refine (hperm.map _).nodup_iff.mpr ?_
  have hkeys : (document.keys.map keyForm).Nodup := by
    refine List.Nodup.map_on (fun key hkey other hother => ?_) document.nodup_keys
    exact h key (Std.ExtTreeMap.mem_keys.mp hkey) other (Std.ExtTreeMap.mem_keys.mp hother)
  rwa [← Std.ExtTreeMap.map_fst_toList_eq_keys, List.map_map] at hkeys

/-- A document that tells its keys apart has one reading. -/
theorem IsReading.eq (h : TellsApart document) (hmap : IsReading document map)
    (hother : IsReading document other) : map = other := by
  obtain ⟨order, horder, rfl⟩ := hmap
  obtain ⟨order', horder', rfl⟩ := hother
  exact ofList_eq_of_perm (horder.trans horder'.symm) (h.nodup horder)

/-- Any reading has the same forms. -/
theorem IsReading.forms (hmap : IsReading document map) (hother : IsReading document other) :
    (∀ key, map.contains key = other.contains key) ∧ map.size = other.size := by
  obtain ⟨order, horder, rfl⟩ := hmap
  obtain ⟨order', horder', rfl⟩ := hother
  exact forms_of_perm (horder.trans horder'.symm)

/-- Each member of a document is kept in some order: in one in which it comes last. -/
theorem exists_order_keeping {entry : String × α} (hentry : entry ∈ document.toList) :
    ∃ order, order.Perm document.toList ∧
      (ofList order).entries[keyForm entry.1]? = some entry := by
  obtain ⟨before, after, hsplit⟩ := List.append_of_mem hentry
  refine ⟨before ++ after ++ [entry], ?_, ?_⟩
  · rw [hsplit]
    exact (List.perm_append_singleton entry _).trans List.perm_middle.symm
  · rw [getElem?_entries_ofList]
    simp

/-- If two keys differ in case only, there are readings with one and with the other. -/
theorem tellsApart_of_alike
    (halike : ∀ map other, IsReading document map → IsReading document other → Alike map other) :
    TellsApart document := by
  intro key hkey key' hkey' hform
  have hmember {key : String} (hkey : key ∈ document) : (key, document[key]) ∈ document.toList :=
    Std.ExtTreeMap.mem_toList_iff_getElem?_eq_some.mpr
      (Std.ExtTreeMap.getElem?_eq_some_getElem hkey)
  obtain ⟨order, horder, hstored⟩ := exists_order_keeping (hmember hkey)
  obtain ⟨order', horder', hstored'⟩ := exists_order_keeping (hmember hkey')
  have hsame :=
    (halike _ _ ⟨order, horder, rfl⟩ ⟨order', horder', rfl⟩).entries (key, document[key])
  rw [(holds_ofList order).mem_toList_iff, (holds_ofList order').mem_toList_iff] at hsame
  -- The first key is kept in the second order too, where the second one has its place.
  have hkept := hsame.mp hstored
  rw [hform, hstored'] at hkept
  exact (congrArg Prod.fst (Option.some.inj hkept)).symm

/-- Readings of a document cannot be told apart exactly if it has no two keys that differ in case
only. -/
theorem alike_iff_tellsApart :
    (∀ map other, IsReading document map → IsReading document other → Alike map other) ↔
      TellsApart document := by
  refine ⟨tellsApart_of_alike, fun h map other hmap hother => ?_⟩
  obtain rfl := hmap.eq h hother
  exact ⟨fun _ => rfl, fun _ => rfl, rfl, fun _ => .rfl⟩

/-- What is read from a JSON object is a reading of the document that its members make up. -/
theorem ofRaw_eq_ok {read : Json.Raw → Json.Decoded α} {raw : Json.Raw}
    (h : ofRaw read raw = .ok map) :
    ∃ document, raw.table read = .ok document ∧ IsReading document map := by
  obtain ⟨document, hread, rfl⟩ := map_eq_ok.mp h
  exact ⟨document, hread, _, .refl _, rfl⟩

end

end CaseMap

/-- The secrets that may be derived from an environment, whose entries come in some order. -/
def AppContext.MayKeep (environment secrets : CaseMap Json) : Prop :=
  ∃ order : List (String × Json), order.Perm environment.toList ∧
    secrets = .ofList (AppContext.flat order)

/-- The secrets of a context are derived in the order of the lower-case forms. -/
theorem AppContext.mayKeep_derive (environment : CaseMap Json) (appDns appDomain : String)
    (version : UInt64) :
    MayKeep environment (derive environment appDns appDomain version).secrets :=
  ⟨_, .refl _, rfl⟩

/-- The secrets do not depend on the order of the entries of the environment. -/
theorem AppContext.MayKeep.eq {environment secrets other : CaseMap Json}
    {writes : List (CaseMap.Write Json)} (hholds : environment.Holds writes)
    (h : MayKeep environment secrets) (hother : MayKeep environment other) : secrets = other := by
  obtain ⟨order, horder, rfl⟩ := h
  obtain ⟨order', horder', rfl⟩ := hother
  refine CaseMap.ofList_eq_of_perm ((horder.trans horder'.symm).filter _) ?_
  have hnodup : (order.map fun entry => CaseMap.keyForm entry.1).Nodup :=
    (horder.map _).nodup_iff.mpr hholds.nodup_keyForm_toList
  exact hnodup.sublist (List.filter_sublist.map _)

namespace ReleaseDir

open CaseMap (IsReading TellsApart Alike)

/-- The document in the file of the environment. -/
def environmentDocument (dir : ReleaseDir) : Except LoadFault (Table Json) :=
  dir.readJson environmentFile (Json.Raw.table Json.Raw.json)

/-- The environments that may be read from a release. -/
def MayRead (dir : ReleaseDir) (environment : CaseMap Json) : Prop :=
  if dir.has environmentFile then
    ∃ document, dir.environmentDocument = .ok document ∧ IsReading document environment
  else environment = .empty

/-- What is read as the environment of a release may be read. -/
theorem mayRead_of_readEnvironment {dir : ReleaseDir} {environment : CaseMap Json}
    (h : dir.readEnvironment = .ok environment) : dir.MayRead environment := by
  rw [readEnvironment] at h
  rw [MayRead]
  split
  · rename_i hfile
    rw [if_pos hfile, readJson, bind_eq_ok] at h
    obtain ⟨text, htext, hdecoded⟩ := h
    rw [mapError_eq_ok, Json.decodeText] at hdecoded
    cases hraw : Json.Raw.ofText? text with
    | none =>
      rw [hraw] at hdecoded
      cases hdecoded
    | some raw =>
      rw [hraw] at hdecoded
      obtain ⟨document, hdocument, hreading⟩ := CaseMap.ofRaw_eq_ok hdecoded
      refine ⟨document, ?_, hreading⟩
      rw [environmentDocument, readJson, bind_eq_ok]
      refine ⟨text, htext, ?_⟩
      rw [mapError_eq_ok, Json.decodeText, hraw]
      exact hdocument
  · rename_i hfile
    rw [if_neg hfile] at h
    cases h
    rfl

/-- An environment that may be read is made of entries. -/
theorem MayRead.exists_ofList {dir : ReleaseDir} {environment : CaseMap Json}
    (h : dir.MayRead environment) : ∃ entries, environment = .ofList entries := by
  rw [MayRead] at h
  split at h
  · obtain ⟨_, -, order, -, rfl⟩ := h
    exact ⟨order, rfl⟩
  · exact ⟨[], h⟩

/-- If the document of the environment has no two keys that differ in case only, one environment may
be read. -/
theorem MayRead.eq {dir : ReleaseDir} {environment other : CaseMap Json}
    (hapart : ∀ document, dir.environmentDocument = .ok document → TellsApart document)
    (h : dir.MayRead environment) (hother : dir.MayRead other) : environment = other := by
  rw [MayRead] at h hother
  split at h
  · rename_i hfile
    rw [if_pos hfile] at hother
    obtain ⟨document, hdocument, hreading⟩ := h
    obtain ⟨document', hdocument', hreading'⟩ := hother
    rw [hdocument] at hdocument'
    cases hdocument'
    exact hreading.eq (hapart document hdocument) hreading'
  · rename_i hfile
    rw [if_neg hfile] at hother
    rw [h, hother]

/-- Whether the environment of a release, and the secrets that are derived from it, are the same at
each reading. -/
structure Settled (dir : ReleaseDir) : Prop where
  environment : ∀ environment other, dir.MayRead environment → dir.MayRead other →
    environment = other
  secrets : ∀ environment other secrets secrets', dir.MayRead environment → dir.MayRead other →
    AppContext.MayKeep environment secrets → AppContext.MayKeep other secrets' →
      secrets = secrets'

/-- The environment of a release is settled if its document tells its keys apart. -/
theorem settled_of_tellsApart {dir : ReleaseDir}
    (hapart : ∀ document, dir.environmentDocument = .ok document → TellsApart document) :
    dir.Settled where
  environment _ _ h hother := h.eq hapart hother
  secrets environment other secrets secrets' h hother hsecrets hsecrets' := by
    obtain rfl := h.eq hapart hother
    obtain ⟨entries, rfl⟩ := h.exists_ofList
    exact hsecrets.eq (CaseMap.holds_ofList entries) hsecrets'

end ReleaseDir

namespace CaseMap

open ReleaseDir (environmentDocument MayRead Settled)

/-- Whether the readings of a document can be told apart depends on its keys alone: they cannot if,
and only if, no two keys differ in case only. Which forms are read, and how many, is the same in any
case. What is read as a map, and as the environment of a release, is one of the readings, and the
secrets of a context are among those that may be kept of it. So an environment whose document tells
its keys apart is the same each time, and its secrets with it. -/
theorem readings_alike_iff {α : Type} :
    (∀ document : Table α,
      ((∀ map other, IsReading document map → IsReading document other → Alike map other) ↔
        TellsApart document) ∧
      ∀ map other : CaseMap α, IsReading document map → IsReading document other →
        (∀ key, map.contains key = other.contains key) ∧ map.size = other.size) ∧
    (∀ (read : Json.Raw → Json.Decoded α) (raw : Json.Raw) (map : CaseMap α),
      ofRaw read raw = .ok map →
        ∃ document, raw.table read = .ok document ∧ IsReading document map) ∧
    (∀ (environment : CaseMap Json) (appDns appDomain : String) (version : UInt64),
      AppContext.MayKeep environment
        (AppContext.derive environment appDns appDomain version).secrets) ∧
    ∀ dir : ReleaseDir,
      (∀ environment, dir.readEnvironment = .ok environment → dir.MayRead environment) ∧
      ((∀ document, dir.environmentDocument = .ok document → TellsApart document) →
        dir.Settled) := by
  refine ⟨fun document => ⟨alike_iff_tellsApart, fun _ _ h => h.forms⟩,
    fun _ _ _ => ofRaw_eq_ok, AppContext.mayKeep_derive, fun dir => ⟨fun _ => ReleaseDir.mayRead_of_readEnvironment, ?_⟩⟩
  exact ReleaseDir.settled_of_tellsApart

/-- A release with nothing but an environment, whose file holds a text. -/
def releaseOf (environment : String) : ReleaseDir :=
  .ofEntries [(ReleaseDir.environmentFile, .file environment.toUTF8)]

/-- The environment of a release that names a region and a token is settled. -/
theorem region_and_token_settled :
    let dir := releaseOf "\x7b\"Region\": \"eu\", \"token\": [1]\x7d"
    dir.environmentDocument.toOption =
      some (.ofEntries [("Region", .str "eu"), ("token", .arr [.int 1])]) ∧ dir.Settled := by
  intro dir
  have hdocument : dir.environmentDocument.toOption =
      some (.ofEntries [("Region", .str "eu"), ("token", .arr [.int 1])]) := by
    decide +kernel
  refine ⟨hdocument, ((readings_alike_iff (α := Json)).2.2.2 dir).2 fun document hread => ?_⟩
  rw [hread] at hdocument
  obtain rfl := Option.some.inj hdocument
  have hkeys : (Table.ofEntries [("Region", Json.str "eu"), ("token", .arr [.int 1])]).keys =
      ["Region", "token"] := by
    decide +kernel
  intro key hkey other hother hform
  rw [← Std.ExtTreeMap.mem_keys, hkeys] at hkey hother
  have hforms : keyForm "Region" ≠ keyForm "token" := by decide +kernel
  simp only [List.mem_cons, List.not_mem_nil, or_false] at hkey hother
  rcases hkey with rfl | rfl <;> rcases hother with rfl | rfl
  · rfl
  · exact absurd hform hforms
  · exact absurd hform.symm hforms
  · rfl

/-- A document that gives a token in two spellings has a reading with the one value and a reading
with the other. -/
theorem token_has_two_readings :
    let document : Table Nat := .ofEntries [("TOKEN", 1), ("token", 2)]
    let map := ofList [("TOKEN", 1), ("token", 2)]
    let other := ofList [("token", 2), ("TOKEN", 1)]
    IsReading document map ∧ IsReading document other ∧
      map.get? "Token" = some 2 ∧ other.get? "Token" = some 1 ∧
      map.toList = [("token", 2)] ∧ other.toList = [("TOKEN", 1)] := by
  intro document map other
  have hlisted : document.toList = [("TOKEN", 1), ("token", 2)] := by decide +kernel
  refine ⟨⟨_, ?_, rfl⟩, ⟨_, ?_, rfl⟩, by decide +kernel, by decide +kernel, by decide +kernel,
    by decide +kernel⟩
  · rw [hlisted]
  · rw [hlisted]
    exact .swap _ _ _

end CaseMap

end StoryEngine

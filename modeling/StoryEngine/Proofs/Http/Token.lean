import StoryEngine.Http.Message
import Mathlib.Data.List.Basic

/-!
# Tokens in upper case

A token is made of ASCII characters, and upper-casing an ASCII text stays within ASCII. A few
characters beyond ASCII have an upper-case form of ASCII letters, so a text that is no token may
become one when it is written in upper case. The texts that become tokens are told apart from those
that are tokens.
-/

namespace StoryEngine.Http

open Text

/-- The characters beyond ASCII whose upper-case form consists of characters of a token. -/
def tokenLookalikes : List Char :=
  ['ß', 'ı', 'ſ', 'ﬀ', 'ﬁ', 'ﬂ', 'ﬃ', 'ﬄ', 'ﬅ', 'ﬆ']

/-- Whether a text is no token but becomes one in upper case. -/
def Disguised (s : String) : Prop :=
  (∀ c ∈ s.toList, isTokenChar c = true ∨ c ∈ tokenLookalikes) ∧
    ∃ c ∈ s.toList, c ∈ tokenLookalikes

/-- What a table has for a key is an entry of the table. -/
theorem mem_of_lookup_eq_some {table : List (Nat × List Nat)} {code : Nat} {codes : List Nat}
    (hlookup : table.lookup code = some codes) : (code, codes) ∈ table := by
  obtain ⟨before, after, rfl, -⟩ := List.lookup_eq_some_iff.mp hlookup
  exact List.mem_append_right _ List.mem_cons_self

/-- What is checked of each of some characters holds of them. There are too many characters to check
it of all. -/
theorem forall_mem_of_all {p : Char → Prop} [DecidablePred p] {chars : List Char}
    (h : (chars.all fun c => decide (p c)) = true) : ∀ c ∈ chars, p c :=
  fun c hc => of_decide_eq_true (List.all_eq_true.mp h c hc)

theorem isTokenChar_eq (c : Char) :
    isTokenChar c = (c.isAlphanum || decide (c ∈ "!#$%&'*+-.^_`|~".toList)) := by
  rw [isTokenChar, String.contains_char_eq]

/-- A token is not empty, and its characters are those of tokens. -/
theorem isToken_iff {s : String} :
    isToken s = true ↔ s.toList ≠ [] ∧ ∀ c ∈ s.toList, isTokenChar c = true := by
  rw [isToken, Bool.and_eq_true, decide_eq_true_eq, List.all_eq_true, ne_eq, ne_eq,
    String.toList_eq_nil_iff]

/-- The characters of tokens are ASCII characters other than the first. -/
theorem toNat_of_isTokenChar {c : Char} (h : isTokenChar c = true) :
    0 < c.toNat ∧ c.toNat < 0x80 := by
  rw [isTokenChar_eq, Bool.or_eq_true, decide_eq_true_eq] at h
  rcases h with halphanum | hmember
  · have hranges : c.isAlphanum = (decide (c.val ≥ 'A'.val ∧ c.val ≤ 'Z'.val) ||
        decide (c.val ≥ 'a'.val) && decide (c.val ≤ 'z'.val) ||
        decide (c.val ≥ '0'.val) && decide (c.val ≤ '9'.val)) := rfl
    have htoNat : c.val.toNat = c.toNat := rfl
    rw [hranges] at halphanum
    simp only [Bool.or_eq_true, Bool.and_eq_true, decide_eq_true_eq, ge_iff_le,
      UInt32.le_iff_toNat_le, Char.reduceVal, UInt32.reduceToNat] at halphanum
    omega
  · have hall : ∀ c ∈ "!#$%&'*+-.^_`|~".toList, 0 < c.toNat ∧ c.toNat < 0x80 :=
      forall_mem_of_all (by decide +kernel)
    exact hall c hmember

/-- A code point that gives a character of tokens is an ASCII one. -/
theorem lt_of_isTokenChar_ofNat {code : Nat} (h : isTokenChar (Char.ofNat code) = true) :
    code < 0x80 := by
  have hbounds := toNat_of_isTokenChar h
  by_cases hvalid : code.isValidChar
  · have hchar : Char.ofNat code = Char.ofNatAux code hvalid := dif_pos hvalid
    rw [hchar] at hbounds
    exact hbounds.2
  · have hchar : Char.ofNat code = Char.ofNat 0 := dif_neg hvalid
    rw [hchar] at hbounds
    exact absurd hbounds.1 (Nat.lt_irrefl 0)

/-- Among the ASCII characters, upper-casing keeps those of tokens and the others apart. -/
theorem isTokenChar_toUpper {c : Char} (h : c.toNat < 0x80) :
    isTokenChar c.toUpper = isTokenChar c := by
  have hall : ∀ code : Fin 0x80,
      isTokenChar (Char.ofNat code).toUpper = isTokenChar (Char.ofNat code) := by
    simp only [isTokenChar_eq]
    decide +kernel
  simpa [Char.ofNat_toNat] using hall ⟨c.toNat, h⟩

/-- No run of the upper-case mapping leads into ASCII, but for two characters. -/
theorem mapByRuns_upperRuns_lt {code : Nat} (h : mapByRuns upperRuns code < 0x80) :
    code < 0x80 ∨ code = 0x131 ∨ code = 0x17F := by
  have hruns : ∀ run ∈ upperRuns, 0x80 ≤ run.first + run.shift ∨
      run.first = run.last ∧ (run.first = 0x131 ∨ run.first = 0x17F) := by
    decide +kernel
  rw [mapByRuns] at h
  cases hfound : upperRuns.findSome? (·.map? code) with
  | none =>
    rw [hfound] at h
    exact .inl h
  | some mapped =>
    rw [hfound, Option.getD_some] at h
    obtain ⟨run, hrun, hmap⟩ := List.exists_of_findSome?_eq_some hfound
    rw [CaseRun.map?, Option.ite_none_right_eq_some, Option.some.injEq] at hmap
    obtain ⟨⟨hfirst, hlast, -⟩, rfl⟩ := hmap
    rcases hruns run hrun with hbeyond | ⟨hsingle, hexception⟩
    · omega
    · omega

/-- An upper-case form of several characters has one that is none of tokens, but for that of a few
characters. -/
theorem upperSequences_lookup {code : Nat} {codes : List Nat}
    (hlookup : upperSequences.lookup code = some codes)
    (hupper : ∀ u ∈ codes.map Char.ofNat, isTokenChar u = true) :
    code ∈ tokenLookalikes.map Char.toNat := by
  have hsequences : ∀ entry ∈ upperSequences,
      ((entry.2.map Char.ofNat).all fun u => isTokenChar u) = true →
        entry.1 ∈ tokenLookalikes.map Char.toNat := by
    simp only [isTokenChar_eq]
    decide +kernel
  exact hsequences _ (mem_of_lookup_eq_some hlookup) (List.all_eq_true.mpr hupper)

/-- Beyond ASCII, the upper-case form is one of token characters for a few characters only. -/
theorem upperChar_isTokenChar_iff {c : Char} (h : 0x80 ≤ c.toNat) :
    (∀ u ∈ upperChar c, isTokenChar u = true) ↔ c ∈ tokenLookalikes := by
  constructor
  · intro hupper
    have hcode : c.toNat ∈ tokenLookalikes.map Char.toNat := by
      rw [upperChar, if_neg (Nat.not_lt.mpr h)] at hupper
      cases hlookup : upperSequences.lookup c.toNat with
      | some codes =>
        rw [hlookup] at hupper
        exact upperSequences_lookup hlookup hupper
      | none =>
        rw [hlookup] at hupper
        have hascii := lt_of_isTokenChar_ofNat (hupper _ (List.mem_singleton_self _))
        rcases mapByRuns_upperRuns_lt hascii with hlt | hcode | hcode
        · exact absurd hlt (Nat.not_lt.mpr h)
        · rw [hcode]
          decide
        · rw [hcode]
          decide
    obtain ⟨d, hd, hsame⟩ := List.mem_map.mp hcode
    rwa [← Char.toNat_inj.mp hsame]
  · intro hmem
    have hall : ∀ d ∈ tokenLookalikes, ((upperChar d).all fun u => isTokenChar u) = true := by
      simp only [isTokenChar_eq]
      exact forall_mem_of_all (by decide +kernel)
    exact List.all_eq_true.mp (hall c hmem)

/-- No character is lost in upper case. -/
theorem upperChar_ne_nil (c : Char) : upperChar c ≠ [] := by
  have hsequences : ∀ entry ∈ upperSequences, entry.2 ≠ [] := by decide
  rw [upperChar]
  split
  · exact List.cons_ne_nil _ _
  · split
    · rename_i codes hlookup
      rw [ne_eq, List.map_eq_nil_iff]
      exact hsequences _ (mem_of_lookup_eq_some hlookup)
    · exact List.cons_ne_nil _ _

/-- A character becomes characters of tokens if it is one, or one of a few others. -/
theorem all_isTokenChar_upperChar (c : Char) :
    (∀ u ∈ upperChar c, isTokenChar u = true) ↔
      isTokenChar c = true ∨ c ∈ tokenLookalikes := by
  by_cases hascii : c.toNat < 0x80
  · have hlookalike : c ∉ tokenLookalikes := by
      have hall : ∀ d ∈ tokenLookalikes, ¬ d.toNat < 0x80 :=
        forall_mem_of_all (by decide +kernel)
      exact fun hmem => hall c hmem hascii
    rw [upperChar, if_pos hascii, List.forall_mem_singleton, isTokenChar_toUpper hascii,
      or_iff_left hlookalike]
  · have htoken : ¬ isTokenChar c = true := fun h => hascii (toNat_of_isTokenChar h).2
    rw [upperChar_isTokenChar_iff (Nat.not_lt.mp hascii), or_iff_right htoken]

/-- A text is a token in upper case if it is not empty and has no characters but those of tokens and
those that look like them. -/
theorem isToken_uppercase_iff {s : String} :
    isToken (uppercase s) = true ↔
      s.toList ≠ [] ∧ ∀ c ∈ s.toList, isTokenChar c = true ∨ c ∈ tokenLookalikes := by
  rw [isToken_iff, uppercase, String.toList_ofList]
  constructor
  · rintro ⟨hne, hall⟩
    refine ⟨?_, fun c hc => ?_⟩
    · rintro hnil
      rw [hnil] at hne
      exact hne rfl
    · refine (all_isTokenChar_upperChar c).mp fun u hu => hall u ?_
      exact List.mem_flatMap.mpr ⟨c, hc, hu⟩
  · rintro ⟨hne, hall⟩
    refine ⟨?_, fun u hu => ?_⟩
    · rw [ne_eq, List.flatMap_eq_nil_iff]
      intro hnil
      obtain ⟨c, hc⟩ := List.exists_mem_of_ne_nil _ hne
      exact upperChar_ne_nil c (hnil c hc)
    · obtain ⟨c, hc, hu⟩ := List.mem_flatMap.mp hu
      exact (all_isTokenChar_upperChar c).mpr (hall c hc) u hu

/-- What is a token in upper case was one before, or is disguised. -/
theorem isToken_uppercase_iff_isToken_or_disguised {s : String} :
    isToken (uppercase s) = true ↔ isToken s = true ∨ Disguised s := by
  rw [isToken_uppercase_iff, isToken_iff, Disguised]
  constructor
  · rintro ⟨hne, hall⟩
    by_cases hlookalike : ∃ c ∈ s.toList, c ∈ tokenLookalikes
    · exact .inr ⟨hall, hlookalike⟩
    · refine .inl ⟨hne, fun c hc => (hall c hc).resolve_right fun hmem => ?_⟩
      exact hlookalike ⟨c, hc, hmem⟩
  · rintro (⟨hne, hall⟩ | ⟨hall, c, hc, -⟩)
    · exact ⟨hne, fun c hc => .inl (hall c hc)⟩
    · exact ⟨List.ne_nil_of_mem hc, hall⟩

/-- A token is not disguised. -/
theorem Disguised.isToken_eq_false {s : String} (h : Disguised s) : isToken s = false := by
  obtain ⟨-, c, hc, hmem⟩ := h
  have hall : ∀ d ∈ tokenLookalikes, isTokenChar d = false := by
    simp only [isTokenChar_eq]
    exact forall_mem_of_all (by decide +kernel)
  rw [Bool.eq_false_iff]
  intro htoken
  have hchar := (isToken_iff.mp htoken).2 c hc
  rw [hall c hmem] at hchar
  cases hchar

/-- The upper-case form of a token stays as it is in upper case. -/
theorem uppercase_uppercase {s : String} (h : isToken s = true) :
    uppercase (uppercase s) = uppercase s := by
  have hchar : ∀ c ∈ s.toList, (upperChar c).flatMap upperChar = upperChar c := by
    intro c hc
    have hascii := (toNat_of_isTokenChar ((isToken_iff.mp h).2 c hc)).2
    have hall : ∀ code : Fin 0x80, (upperChar (Char.ofNat code)).flatMap upperChar =
        upperChar (Char.ofNat code) := by
      decide +kernel
    simpa [Char.ofNat_toNat] using hall ⟨c.toNat, hascii⟩
  simp only [uppercase, String.toList_ofList]
  congr 1
  rw [List.flatMap_assoc]
  exact List.flatMap_congr hchar

end StoryEngine.Http

import StoryEngine.Text.Numeral
import Mathlib.Data.List.Induction

/-!
# The grammar of decimal numerals

A numeral is a row of decimal digits, with or without a plus sign in front. The reader takes exactly
the numerals whose value is within its limit, however many zeros they begin with, and reads them as
their value. The way in which a number is printed is a numeral of it.
-/

namespace StoryEngine.Text

/-- A row of one or more decimal digits, with the number that it stands for. -/
inductive Digits : List Char → Nat → Prop where
  | one {d : Nat} (hd : d < 10) : Digits [d.digitChar] d
  | concat {cs : List Char} {n d : Nat} (hcs : Digits cs n) (hd : d < 10) :
      Digits (cs ++ [d.digitChar]) (10 * n + d)

/-- An unsigned numeral, with the number that it stands for. -/
inductive Numeral : String → Nat → Prop where
  | plain {s : String} {n : Nat} (hs : Digits s.toList n) : Numeral s n
  | plus {s : String} {digits : List Char} {n : Nat} (hs : s.toList = '+' :: digits)
      (hdigits : Digits digits n) : Numeral s n

variable {cs : List Char} {c : Char} {s : String} {n d limit : Nat}

@[simp] theorem digitsValue_concat :
    digitsValue (cs ++ [c]) = 10 * digitsValue cs + digitValue c := by
  simp only [digitsValue, List.foldl_append, List.foldl_cons, List.foldl_nil]

theorem digitValue_digitChar (hd : d < 10) : digitValue d.digitChar = d := by
  have hcode : d.digitChar.toNat = 48 + d := Nat.toNat_digitChar_of_lt_ten hd
  have hzero : '0'.toNat = 48 := rfl
  rw [digitValue, hcode, hzero]
  omega

theorem isDigit_digitChar (hd : d < 10) : d.digitChar.isDigit = true := by
  rw [Nat.isDigit_digitChar, decide_eq_true_eq]
  exact hd

/-- Every decimal digit is the digit of its value. -/
theorem digitChar_digitValue (hc : c.isDigit = true) :
    digitValue c < 10 ∧ (digitValue c).digitChar = c := by
  obtain ⟨hzero, hnine⟩ := Char.isDigit_iff_toNat.mp hc
  have hcodes : '0'.toNat = 48 ∧ '9'.toNat = 57 := ⟨rfl, rfl⟩
  rw [hcodes.1] at hzero
  rw [hcodes.2] at hnine
  have hvalue : digitValue c = c.toNat - 48 := rfl
  have hlt : digitValue c < 10 := by omega
  refine ⟨hlt, Char.toNat_inj.mp ?_⟩
  rw [Nat.toNat_digitChar_of_lt_ten hlt]
  omega

theorem Digits.ne_nil (h : Digits cs n) : cs ≠ [] := by
  cases h with
  | one => exact List.cons_ne_nil _ _
  | concat => exact List.concat_ne_nil _ _

theorem Digits.all_isDigit (h : Digits cs n) : cs.all Char.isDigit = true := by
  induction h with
  | one hd => rw [List.all_cons, List.all_nil, Bool.and_true, isDigit_digitChar hd]
  | concat _ hd ih =>
    rw [List.all_append, ih, List.all_cons, List.all_nil, isDigit_digitChar hd]
    rfl

theorem Digits.digitsValue_eq (h : Digits cs n) : digitsValue cs = n := by
  induction h with
  | one hd =>
    rw [digitsValue, List.foldl_cons, List.foldl_nil, digitValue_digitChar hd]
    omega
  | concat _ hd ih => rw [digitsValue_concat, ih, digitValue_digitChar hd]

/-- A row of digits stands for the value that it is read as. -/
theorem digits_digitsValue (hne : cs ≠ []) (hall : cs.all Char.isDigit = true) :
    Digits cs (digitsValue cs) := by
  -- The last digit is the one that is added to ten times the others; a single digit has no others.
  induction cs using List.reverseRecOn with
  | nil => exact absurd rfl hne
  | append_singleton cs c ih =>
    rw [List.all_append, Bool.and_eq_true, List.all_cons, List.all_nil, Bool.and_true] at hall
    obtain ⟨hfront, hlast⟩ := hall
    obtain ⟨hlt, hchar⟩ := digitChar_digitValue hlast
    rw [digitsValue_concat, ← hchar, digitValue_digitChar hlt]
    cases cs with
    | nil =>
      have hone : 10 * digitsValue [] + digitValue c = digitValue c := by
        rw [digitsValue, List.foldl_nil, Nat.mul_zero, Nat.zero_add]
      rw [hone]
      exact .one hlt
    | cons first rest => exact .concat (ih (List.cons_ne_nil _ _) hfront) hlt

theorem digits_iff :
    Digits cs n ↔ cs ≠ [] ∧ cs.all Char.isDigit = true ∧ digitsValue cs = n := by
  constructor
  · intro h
    exact ⟨h.ne_nil, h.all_isDigit, h.digitsValue_eq⟩
  · rintro ⟨hne, hall, rfl⟩
    exact digits_digitsValue hne hall

/-- A row of digits has no plus sign to take off. -/
theorem Digits.unsigned_eq (h : Digits cs n) : unsigned cs = cs := by
  have hall := h.all_isDigit
  unfold unsigned
  split
  · -- The plus sign would be a digit.
    rw [List.all_cons, Bool.and_eq_true] at hall
    exact absurd hall.1 (by decide)
  · rfl

/-- A numeral is a text of which digits are left when a plus sign is taken off. -/
theorem numeral_iff : Numeral s n ↔ Digits (unsigned s.toList) n := by
  constructor
  · rintro (hs | ⟨hs, hdigits⟩)
    · rw [hs.unsigned_eq]
      exact hs
    · rw [hs]
      exact hdigits
  · intro h
    unfold unsigned at h
    split at h
    next digits hs => exact .plus hs h
    next => exact .plain h

/-- The reader takes the numerals whose value is within the limit, and no other text. -/
theorem readUnsigned?_eq_some_iff :
    readUnsigned? limit s = some n ↔ Numeral s n ∧ n ≤ limit := by
  rw [numeral_iff, digits_iff, readUnsigned?]
  constructor
  · intro hread
    split at hread
    next hfits =>
      obtain ⟨hne, hall, hle⟩ := hfits
      cases hread
      exact ⟨⟨hne, hall, rfl⟩, hle⟩
    next => cases hread
  · rintro ⟨⟨hne, hall, rfl⟩, hle⟩
    exact if_pos ⟨hne, hall, hle⟩

/-- The decimal digits of a number stand for it. -/
theorem digits_toDigits (n : Nat) : Digits (Nat.toDigits 10 n) n := by
  induction n using Nat.strongRecOn with
  | ind n ih =>
    by_cases hn : n < 10
    · rw [Nat.toDigits_of_lt_base hn]
      exact .one hn
    · have hsplit : 10 * (n / 10) + n % 10 = n := Nat.div_add_mod n 10
      have hdigits := Digits.concat (ih (n / 10) (by omega)) (Nat.mod_lt n (by decide : 0 < 10))
      rw [hsplit] at hdigits
      rw [Nat.toDigits_of_base_le (by decide) (by omega)]
      exact hdigits

/-- The print of a number is a numeral of it. -/
theorem numeral_toString (n : Nat) : Numeral (toString n) n := by
  refine .plain ?_
  rw [Nat.toString_eq_repr, Nat.toList_repr]
  exact digits_toDigits n

end StoryEngine.Text

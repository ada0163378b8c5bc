import StoryEngine.Binary64.Arithmetic
import Mathlib.Algebra.Order.Field.Power
import Mathlib.Data.Rat.Cast.Order
import Mathlib.Tactic.FieldSimp
import Mathlib.Tactic.Linarith
import Mathlib.Tactic.NormNum
import Mathlib.Tactic.Positivity
import Mathlib.Tactic.Ring

/-!
# What rounding keeps

A result of double-precision arithmetic is the exact one, rounded to the nearest number of the
format. Rounding is monotone: no number of the format lies between the exact result and the rounded
one. The bounds of products and quotients follow from this, without a look at the digits.
-/

namespace StoryEngine.Binary64

/-- Whether a number is the given one. -/
def Is (x : Binary64) (value : ℚ) : Prop :=
  ∃ (significand : ℕ) (exponent : ℤ), x = finite false significand exponent ∧
    significand * 2 ^ exponent = value

/-- Whether a number is finite or infinite and not below a bound. -/
def AtLeast (x : Binary64) (bound : ℚ) : Prop :=
  x = infinite false ∨ ∃ value, x.Is value ∧ bound ≤ value

/-- Whether a number is not negative, finite and not above a bound. -/
def AtMost (x : Binary64) (bound : ℚ) : Prop :=
  ∃ value, x.Is value ∧ value ≤ bound

/-- Whether a number has a significand and an exponent of the format, if the exponent may be as
large as it likes. -/
def OnGrid (point : ℚ) : Prop :=
  ∃ (significand : ℕ) (exponent : ℤ), significand ≤ 2 ^ 53 ∧ -1074 ≤ exponent ∧
    point = significand * 2 ^ exponent

/-- Whether a number comes of rounding an exact one that is not negative: no point of the grid lies
between them, and from `2 ^ 1024` on it is infinite. -/
def RoundsTo (exact : ℚ) (x : Binary64) : Prop :=
  ∃ value : ℚ, (∀ point, OnGrid point → point ≤ exact → point ≤ value) ∧
    (∀ point, OnGrid point → exact ≤ point → value ≤ point) ∧
    (x.Is value ∧ value < 2 ^ (1024 : ℤ) ∨ x = infinite false ∧ 2 ^ (1024 : ℤ) ≤ value)

/-- No number is two. -/
theorem Is.unique {x : Binary64} {a b : ℚ} (h : x.Is a) (h' : x.Is b) : a = b := by
  obtain ⟨s, e, rfl, rfl⟩ := h
  obtain ⟨t, f, ⟨⟩, rfl⟩ := h'
  rfl

/-- An infinite number comes of rounding. -/
theorem roundsTo_infinite : RoundsTo (2 ^ (1024 : ℤ)) (infinite false) :=
  ⟨2 ^ (1024 : ℤ), fun _ _ h => h, fun _ _ h => h, .inr ⟨rfl, le_rfl⟩⟩

/-- A natural number of at most 53 binary digits is on the grid. -/
theorem onGrid_natCast {n : ℕ} (h : n ≤ 2 ^ 53) : OnGrid n :=
  ⟨n, 0, h, by decide, by rw [zpow_zero, mul_one]⟩

/-- The powers of two from the smallest number on are on the grid. -/
theorem onGrid_two_zpow {k : ℤ} (h : -1074 ≤ k) : OnGrid (2 ^ k) :=
  ⟨1, k, Nat.one_le_two_pow, h, by rw [Nat.cast_one, one_mul]⟩

/-- The quotient is scaled by the power of two. -/
theorem scaleQuotient_spec (num : ℕ) {den : ℕ} (power : ℤ) (hden : 0 < den) :
    0 < (scaleQuotient num den power).2 ∧
      ((scaleQuotient num den power).1 / (scaleQuotient num den power).2 : ℚ) =
        num / den * 2 ^ power := by
  have htwo : ∀ k : ℕ, (Nat.pow 2 k : ℕ) = 2 ^ k := fun _ => rfl
  rw [scaleQuotient]
  split
  · rename_i hnonneg
    obtain ⟨k, rfl⟩ := Int.eq_ofNat_of_zero_le hnonneg
    refine ⟨hden, ?_⟩
    simp only [Int.toNat_natCast, htwo, Nat.cast_mul, Nat.cast_pow, Nat.cast_ofNat, zpow_natCast]
    ring
  · rename_i hneg
    obtain ⟨k, hk⟩ := Int.eq_ofNat_of_zero_le (by omega : 0 ≤ -power)
    obtain rfl : power = -k := by omega
    refine ⟨Nat.mul_pos hden (Nat.two_pow_pos _), ?_⟩
    simp only [neg_neg, Int.toNat_natCast, htwo, Nat.cast_mul, Nat.cast_pow, Nat.cast_ofNat,
      zpow_neg, zpow_natCast]
    rw [div_mul_eq_div_div, div_eq_mul_inv]

/-- A quotient that is not below a natural number is not rounded below it. -/
theorem le_roundQuotient {n num den : ℕ} (hden : 0 < den) (h : (n : ℚ) ≤ num / den) :
    n ≤ roundQuotient num den := by
  have hden' : (0 : ℚ) < den := Nat.cast_pos.mpr hden
  have hdown : n ≤ num / den := by
    rw [Nat.le_div_iff_mul_le hden]
    exact_mod_cast (le_div_iff₀ hden').mp h
  unfold roundQuotient
  dsimp only
  split
  · exact hdown
  · split <;> omega

/-- A quotient that is not above a natural number is not rounded above it. -/
theorem roundQuotient_le {n num den : ℕ} (hden : 0 < den) (h : (num / den : ℚ) ≤ n) :
    roundQuotient num den ≤ n := by
  have hden' : (0 : ℚ) < den := Nat.cast_pos.mpr hden
  have hnum : num ≤ n * den := by exact_mod_cast (div_le_iff₀ hden').mp h
  have hdown : num / den ≤ n := Nat.div_le_of_le_mul (by rwa [Nat.mul_comm])
  unfold roundQuotient
  dsimp only
  rcases Nat.lt_or_eq_of_le hdown with hlt | heq
  · split
    · exact hdown
    · split <;> omega
  · -- The quotient is the natural number itself, and nothing is left to round.
    have hrest : num % den = 0 := by
      have hsplit := Nat.div_add_mod num den
      rw [heq, Nat.mul_comm] at hsplit
      omega
    rw [hrest, heq, Nat.mul_zero, if_pos hden]

/-- The logarithm of a natural number is the power of two at or just below it. -/
theorem zpow_log2_bounds {n : ℕ} (hn : 0 < n) :
    (2 : ℚ) ^ (n.log2 : ℤ) ≤ n ∧ (n : ℚ) < 2 ^ ((n.log2 : ℤ) + 1) := by
  have hlow : 2 ^ n.log2 ≤ n := Nat.log2_self_le hn.ne'
  have hhigh : n < 2 ^ (n.log2 + 1) := Nat.lt_log2_self
  rw [zpow_natCast, ← Nat.cast_succ, zpow_natCast]
  exact ⟨by exact_mod_cast hlow, by exact_mod_cast hhigh⟩

/-- The logarithm is the power of two at or just below the quotient. -/
theorem floorLog2_spec {num den : ℕ} (hnum : 0 < num) (hden : 0 < den) :
    (2 : ℚ) ^ floorLog2 num den ≤ num / den ∧ (num / den : ℚ) < 2 ^ (floorLog2 num den + 1) := by
  have hnum' : (0 : ℚ) < num := Nat.cast_pos.mpr hnum
  have hden' : (0 : ℚ) < den := Nat.cast_pos.mpr hden
  obtain ⟨hlow, hhigh⟩ := zpow_log2_bounds hnum
  obtain ⟨hlow', hhigh'⟩ := zpow_log2_bounds hden
  set guess : ℤ := (num.log2 : ℤ) - den.log2 with hguess
  have hbelow : (2 : ℚ) ^ (guess - 1) < num / den := by
    rw [lt_div_iff₀ hden']
    calc (2 : ℚ) ^ (guess - 1) * den
        < 2 ^ (guess - 1) * 2 ^ ((den.log2 : ℤ) + 1) := by gcongr
      _ = 2 ^ (num.log2 : ℤ) := by
          rw [← zpow_add₀ two_ne_zero]
          congr 1
          omega
      _ ≤ num := hlow
  have habove : (num / den : ℚ) < 2 ^ (guess + 1) := by
    rw [div_lt_iff₀ hden']
    calc (num : ℚ) < 2 ^ ((num.log2 : ℤ) + 1) := hhigh
      _ = 2 ^ (guess + 1) * 2 ^ (den.log2 : ℤ) := by
          rw [← zpow_add₀ two_ne_zero]
          congr 1
          omega
      _ ≤ 2 ^ (guess + 1) * den := by gcongr
  obtain ⟨hscaled, hratio⟩ := scaleQuotient_spec num (-guess) hden
  have hscaled' : (0 : ℚ) < (scaleQuotient num den (-guess)).2 := Nat.cast_pos.mpr hscaled
  have htest : (scaleQuotient num den (-guess)).2 ≤ (scaleQuotient num den (-guess)).1 ↔
      (2 : ℚ) ^ guess ≤ num / den := by
    rw [← Nat.cast_le (α := ℚ), ← one_le_div hscaled', hratio, zpow_neg, ← div_eq_mul_inv,
      one_le_div (by positivity)]
  have hfloor : floorLog2 num den = if (2 : ℚ) ^ guess ≤ num / den then guess else guess - 1 := by
    rw [floorLog2]
    exact if_congr htest rfl rfl
  rw [hfloor]
  split
  · rename_i hle
    exact ⟨hle, habove⟩
  · rename_i hlt
    rw [sub_add_cancel]
    exact ⟨hbelow.le, not_le.mp hlt⟩

/-- A multiple of a power of two is one of a smaller power of two. -/
theorem exists_natCast_mul_zpow (significand : ℕ) {fine coarse : ℤ} (h : fine ≤ coarse) :
    ∃ n : ℕ, (significand * 2 ^ coarse : ℚ) = n * 2 ^ fine := by
  obtain ⟨k, hk⟩ := Int.eq_ofNat_of_zero_le (Int.sub_nonneg_of_le h)
  obtain rfl : coarse = k + fine := by omega
  refine ⟨significand * 2 ^ k, ?_⟩
  rw [zpow_add₀ two_ne_zero, zpow_natCast]
  push_cast
  ring

/-- A significand that needs one digit more than the format has is halved. -/
theorem exists_pack {significand : ℕ} {exponent : ℤ} (hdigits : significand ≤ 2 ^ 53)
    (hlarge : 971 ≤ exponent → 2 ^ 52 ≤ significand) :
    ∃ (s : ℕ) (e : ℤ),
      pack false significand exponent = (if 971 < e then infinite false else finite false s e) ∧
      (s * 2 ^ e : ℚ) = significand * 2 ^ exponent ∧ s < 2 ^ 53 ∧ (971 < e → 2 ^ 52 ≤ s) := by
  by_cases hfull : significand = 2 ^ 53
  · refine ⟨2 ^ 52, exponent + 1, ?_, ?_, by decide, fun _ => Nat.le_refl _⟩
    · rw [hfull]
      rfl
    · rw [hfull, zpow_add_one₀ two_ne_zero, Nat.cast_pow, Nat.cast_pow, Nat.cast_ofNat]
      ring
  · refine ⟨significand, exponent, ?_, rfl, Nat.lt_of_le_of_ne hdigits hfull, fun hover => ?_⟩
    · have hfull' : significand ≠ Nat.pow 2 precision := hfull
      rw [pack, if_neg hfull']
      rfl
    · exact hlarge hover.le

/-- A significand of at most 53 digits, and of no fewer where the exponent is largest, gives a
number of the format or an infinite one. -/
theorem pack_spec {significand : ℕ} {exponent : ℤ} (hdigits : significand ≤ 2 ^ 53)
    (hlarge : 971 ≤ exponent → 2 ^ 52 ≤ significand) :
    (pack false significand exponent).Is (significand * 2 ^ exponent) ∧
        (significand * 2 ^ exponent : ℚ) < 2 ^ (1024 : ℤ) ∨
      pack false significand exponent = infinite false ∧
        (2 : ℚ) ^ (1024 : ℤ) ≤ significand * 2 ^ exponent := by
  obtain ⟨s, e, hpack, hvalue, hsize, hlarge'⟩ := exists_pack hdigits hlarge
  rw [hpack, ← hvalue]
  have hsplit (a b : ℤ) (h : a + b = 1024) : (2 : ℚ) ^ (1024 : ℤ) = 2 ^ a * 2 ^ b := by
    rw [← zpow_add₀ two_ne_zero, h]
  by_cases hover : 971 < e
  · rw [if_pos hover, hsplit 52 972 rfl]
    refine .inr ⟨rfl, ?_⟩
    have hexponent : (2 : ℚ) ^ (972 : ℤ) ≤ 2 ^ e := zpow_le_zpow_right₀ one_le_two (by omega)
    have hsignificand : (2 : ℚ) ^ (52 : ℤ) ≤ s := by exact_mod_cast hlarge' hover
    gcongr
  · rw [if_neg hover, hsplit 53 971 rfl]
    refine .inl ⟨⟨s, e, rfl, rfl⟩, ?_⟩
    have hexponent : (2 : ℚ) ^ e ≤ 2 ^ (971 : ℤ) := zpow_le_zpow_right₀ one_le_two (by omega)
    have hsignificand : (s : ℚ) < 2 ^ (53 : ℤ) := by exact_mod_cast hsize
    calc (s : ℚ) * 2 ^ e ≤ s * 2 ^ (971 : ℤ) :=
          mul_le_mul_of_nonneg_left hexponent (Nat.cast_nonneg s)
      _ < 2 ^ (53 : ℤ) * 2 ^ (971 : ℤ) :=
          mul_lt_mul_of_pos_right hsignificand (zpow_pos two_pos _)

/-- Points of a finer grid lie below the significands of a coarser one that have all digits. -/
theorem natCast_mul_zpow_le_of_finer {digits : ℕ} {fine coarse : ℤ} (hdigits : digits ≤ 2 ^ 53)
    (h : fine < coarse) : (digits * 2 ^ fine : ℚ) ≤ (2 ^ 52 : ℕ) * 2 ^ coarse := by
  have hdigits' : (digits : ℚ) ≤ 2 ^ (53 : ℤ) := by exact_mod_cast hdigits
  calc (digits * 2 ^ fine : ℚ) ≤ 2 ^ (53 : ℤ) * 2 ^ fine := by gcongr
    _ ≤ 2 ^ (52 : ℤ) * 2 ^ coarse := by
        rw [← zpow_add₀ two_ne_zero, ← zpow_add₀ two_ne_zero]
        exact zpow_le_zpow_right₀ one_le_two (by omega)
    _ = (2 ^ 52 : ℕ) * 2 ^ coarse := by norm_num

/-- The number nearest to a quotient comes of rounding it. -/
theorem roundsTo_ofRatio (num : ℕ) {den : ℕ} (hden : 0 < den) :
    RoundsTo (num / den) (ofRatio false num den) := by
  rcases Nat.eq_zero_or_pos num with rfl | hnum
  · rw [Nat.cast_zero, zero_div]
    refine ⟨0, fun _ _ h => h, fun _ _ h => h, .inl ⟨⟨0, minExponent, rfl, ?_⟩, by positivity⟩⟩
    rw [Nat.cast_zero, zero_mul]
  obtain ⟨hfloor, hceil⟩ := floorLog2_spec hnum hden
  set exact : ℚ := num / den
  set log := floorLog2 num den
  set exponent := max (log - 52) (-1074) with hexponent
  obtain ⟨hscaled, hratio⟩ := scaleQuotient_spec num (-exponent) hden
  set scaled := scaleQuotient num den (-exponent)
  set significand := roundQuotient scaled.1 scaled.2
  have hresult : ofRatio false num den = pack false significand exponent := by
    rw [ofRatio, if_neg hnum.ne']
    rfl
  have hunit : (0 : ℚ) < 2 ^ exponent := by positivity
  have hratio' : (scaled.1 / scaled.2 : ℚ) = exact / 2 ^ exponent := by
    rw [hratio, zpow_neg, ← div_eq_mul_inv]
  have hlower (n : ℕ) (h : n * 2 ^ exponent ≤ exact) : n ≤ significand := by
    refine le_roundQuotient hscaled ?_
    rwa [hratio', le_div_iff₀ hunit]
  have hupper (n : ℕ) (h : exact ≤ n * 2 ^ exponent) : significand ≤ n := by
    refine roundQuotient_le hscaled ?_
    rwa [hratio', div_le_iff₀ hunit]
  have hdigits : significand ≤ 2 ^ 53 := by
    refine hupper _ (hceil.le.trans ?_)
    rw [Nat.cast_pow, Nat.cast_ofNat, ← zpow_natCast, ← zpow_add₀ two_ne_zero]
    refine zpow_le_zpow_right₀ one_le_two ?_
    rw [Nat.cast_ofNat]
    omega
  -- Where the exponent is not the smallest one, the significand has all its digits.
  have hlog (h : -1074 < exponent) : ((2 ^ 52 : ℕ) : ℚ) * 2 ^ exponent = 2 ^ log := by
    rw [Nat.cast_pow, Nat.cast_ofNat, ← zpow_natCast, ← zpow_add₀ two_ne_zero, Nat.cast_ofNat]
    congr 1
    omega
  have hfull (h : -1074 < exponent) : 2 ^ 52 ≤ significand := by
    refine hlower _ ?_
    rw [hlog h]
    exact hfloor
  rw [hresult]
  refine ⟨significand * 2 ^ exponent, ?_, ?_, pack_spec hdigits fun h => hfull (by omega)⟩
  · rintro point ⟨digits, e, hsize, hsmall, rfl⟩ hpoint
    rcases le_or_gt exponent e with hle | hlt
    · obtain ⟨n, hn⟩ := exists_natCast_mul_zpow digits hle
      rw [hn] at hpoint ⊢
      have hcast : (n : ℚ) ≤ significand := Nat.cast_le.mpr (hlower n hpoint)
      gcongr
    · have hcast : ((2 ^ 52 : ℕ) : ℚ) ≤ significand := Nat.cast_le.mpr (hfull (by omega))
      refine (natCast_mul_zpow_le_of_finer hsize hlt).trans ?_
      gcongr
  · rintro point ⟨digits, e, hsize, hsmall, rfl⟩ hpoint
    rcases le_or_gt exponent e with hle | hlt
    · obtain ⟨n, hn⟩ := exists_natCast_mul_zpow digits hle
      rw [hn] at hpoint ⊢
      have hcast : (significand : ℚ) ≤ n := Nat.cast_le.mpr (hupper n hpoint)
      gcongr
    · have hcast : (significand : ℚ) ≤ (2 ^ 52 : ℕ) :=
        Nat.cast_le.mpr (hupper _ (hpoint.trans (natCast_mul_zpow_le_of_finer hsize hlt)))
      calc (significand * 2 ^ exponent : ℚ) ≤ (2 ^ 52 : ℕ) * 2 ^ exponent := by gcongr
        _ = 2 ^ log := hlog (by omega)
        _ ≤ exact := hfloor
        _ ≤ digits * 2 ^ e := hpoint

/-- A scaled quotient comes of rounding it. -/
theorem roundsTo_ofScaled (num : ℕ) {den : ℕ} (power : ℤ) (hden : 0 < den) :
    RoundsTo (num / den * 2 ^ power) (ofScaled false num den power) := by
  obtain ⟨hscaled, hratio⟩ := scaleQuotient_spec num power hden
  rw [← hratio, ofScaled]
  exact roundsTo_ofRatio _ hscaled

/-- The number nearest to a natural number comes of rounding it. -/
theorem roundsTo_ofNat (n : ℕ) : RoundsTo n (ofNat n) := by
  have h := roundsTo_ofRatio n Nat.one_pos
  rwa [Nat.cast_one, div_one] at h

/-- The product of two numbers comes of rounding their exact product. -/
theorem Is.roundsTo_mul {x y : Binary64} {a b : ℚ} (hx : x.Is a) (hy : y.Is b) :
    RoundsTo (a * b) (mul x y) := by
  obtain ⟨m, e, rfl, rfl⟩ := hx
  obtain ⟨n, f, rfl, rfl⟩ := hy
  have h := roundsTo_ofScaled (m * n) (e + f) Nat.one_pos
  rw [Nat.cast_one, div_one, Nat.cast_mul, zpow_add₀ two_ne_zero] at h
  rwa [mul_mul_mul_comm]

/-- The quotient of two numbers comes of rounding their exact quotient. -/
theorem Is.roundsTo_div {x y : Binary64} {a b : ℚ} (hx : x.Is a) (hy : y.Is b) (hpos : 0 < b) :
    RoundsTo (a / b) (div x y) := by
  obtain ⟨m, e, rfl, rfl⟩ := hx
  obtain ⟨n, f, rfl, rfl⟩ := hy
  have hn : 0 < n := by
    refine Nat.pos_of_ne_zero fun hzero => ?_
    rw [hzero, Nat.cast_zero, zero_mul] at hpos
    exact lt_irrefl _ hpos
  have h := roundsTo_ofScaled m (e - f) hn
  rw [zpow_sub₀ two_ne_zero, div_mul_div_comm] at h
  rw [div, if_neg hn.ne']
  exact h

namespace RoundsTo

variable {exact point : ℚ} {x : Binary64}

/-- A point below the exact number is not above the rounded one. -/
theorem atLeast (h : RoundsTo exact x) (hpoint : OnGrid point) (hle : point ≤ exact) :
    x.AtLeast point := by
  obtain ⟨value, hlower, -, ⟨hvalue, -⟩ | ⟨hinfinite, -⟩⟩ := h
  · exact .inr ⟨value, hvalue, hlower point hpoint hle⟩
  · exact .inl hinfinite

/-- A point above the exact number is not below the rounded one. -/
theorem atMost (h : RoundsTo exact x) (hpoint : OnGrid point) (hle : exact ≤ point)
    (hsize : point < 2 ^ (1024 : ℤ)) : x.AtMost point := by
  obtain ⟨value, -, hupper, ⟨hvalue, -⟩ | ⟨-, hover⟩⟩ := h
  · exact ⟨value, hvalue, hupper point hpoint hle⟩
  · exact absurd (hover.trans (hupper point hpoint hle)) (not_le.mpr hsize)

/-- A point of the grid is not rounded. -/
theorem is_exact (h : RoundsTo exact x) (hpoint : OnGrid exact) (hsize : exact < 2 ^ (1024 : ℤ)) :
    x.Is exact := by
  obtain ⟨value, hlower, hupper, ⟨hvalue, -⟩ | ⟨-, hover⟩⟩ := h
  · rwa [le_antisymm (hlower _ hpoint le_rfl) (hupper _ hpoint le_rfl)]
  · exact absurd (hover.trans (hupper _ hpoint le_rfl)) (not_le.mpr hsize)

/-- A natural number of at most 53 binary digits is not rounded. -/
theorem is_natCast {n : ℕ} (h : RoundsTo n x) (hdigits : n ≤ 2 ^ 53) : x.Is n := by
  refine h.is_exact (onGrid_natCast hdigits) ?_
  have hle : (n : ℚ) ≤ 2 ^ (53 : ℤ) := by exact_mod_cast hdigits
  exact hle.trans_lt (zpow_lt_zpow_right₀ one_lt_two (by decide))

/-- What is rounded and is not below `2 ^ 1024` is infinite. -/
theorem eq_infinite_of_atLeast (h : RoundsTo exact x) (hx : x.AtLeast (2 ^ (1024 : ℤ))) :
    x = infinite false := by
  obtain ⟨value, -, -, ⟨hvalue, hsize⟩ | ⟨hinfinite, -⟩⟩ := h
  · rcases hx with hinfinite | ⟨other, hother, hlarge⟩
    · exact hinfinite
    · rw [hother.unique hvalue] at hlarge
      exact absurd hlarge (not_le.mpr hsize)
  · exact hinfinite

end RoundsTo

/-- A number is the natural number that it is made of, if that has at most 53 binary digits. -/
theorem is_ofNat {n : ℕ} (h : n ≤ 2 ^ 53) : (ofNat n).Is n :=
  (roundsTo_ofNat n).is_natCast h

section

variable {x y : Binary64} {a b point : ℚ}

/-- What is a number is not below what that number is not below. -/
theorem Is.atLeast (h : x.Is a) (hle : b ≤ a) : x.AtLeast b :=
  .inr ⟨a, h, hle⟩

/-- What is not below a bound is not below a lesser one. -/
theorem AtLeast.mono (h : x.AtLeast a) (hle : b ≤ a) : x.AtLeast b := by
  rcases h with hinfinite | ⟨value, hvalue, hbound⟩
  · exact .inl hinfinite
  · exact .inr ⟨value, hvalue, hle.trans hbound⟩

/-- A number that is at least a positive bound is infinite or a positive number. -/
theorem AtLeast.cases (h : x.AtLeast a) (hpos : 0 < a) :
    x = infinite false ∨
      ∃ (s : ℕ) (e : ℤ), x = finite false s e ∧ 0 < s ∧ x.Is (s * 2 ^ e) ∧ a ≤ s * 2 ^ e := by
  rcases h with hinfinite | ⟨value, ⟨s, e, hfinite, rfl⟩, hle⟩
  · exact .inl hinfinite
  · refine .inr ⟨s, e, hfinite, Nat.pos_of_ne_zero fun hzero => ?_, ⟨s, e, hfinite, rfl⟩, hle⟩
    rw [hzero, Nat.cast_zero, zero_mul] at hle
    exact absurd (hpos.trans_le hle) (lt_irrefl _)

/-- The product of two positive numbers, one of them infinite, is infinite; otherwise it comes of
rounding a product that is not below that of their bounds. -/
theorem AtLeast.mul_cases (hx : x.AtLeast a) (hy : y.AtLeast b) (ha : 0 < a) (hb : 0 < b) :
    mul x y = infinite false ∨ ∃ exact, a * b ≤ exact ∧ RoundsTo exact (mul x y) := by
  rcases hx.cases ha with rfl | ⟨s, e, rfl, hs, hvalue, hle⟩
  · rcases hy.cases hb with rfl | ⟨t, f, rfl, ht, -, -⟩
    · exact .inl rfl
    · exact .inl (if_neg ht.ne')
  · rcases hy.cases hb with rfl | ⟨t, f, rfl, ht, hvalue', hle'⟩
    · exact .inl (if_neg hs.ne')
    · exact .inr ⟨_, mul_le_mul hle hle' hb.le (ha.le.trans hle), hvalue.roundsTo_mul hvalue'⟩

/-- A product is not below a point that the product of the bounds is not below. -/
theorem AtLeast.mul (hx : x.AtLeast a) (hy : y.AtLeast b) (ha : 0 < a) (hb : 0 < b)
    (hpoint : OnGrid point) (hle : point ≤ a * b) : (mul x y).AtLeast point := by
  rcases hx.mul_cases hy ha hb with hinfinite | ⟨exact, hexact, hrounds⟩
  · exact .inl hinfinite
  · exact hrounds.atLeast hpoint (hle.trans hexact)

end

end StoryEngine.Binary64

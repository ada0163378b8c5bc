import StoryEngine.Proofs.Binary64.Rounding
import Mathlib.Algebra.Order.Floor.Semifield
import Mathlib.Data.Rat.Floor

/-!
# Powers of whole numbers

A power is computed by squaring, and every product on the way is rounded. As long as the exact power
has at most 53 binary digits nothing is rounded at all; beyond that the power is too large by no
more than rounding keeps, and from `2 ^ 1024` on it is infinite. Here is also what becomes of
numbers when they are compared and cut off to whole ones.
-/

namespace StoryEngine.Binary64

section

variable {x y : Binary64} {a b : ℚ}

/-- The units of a finite number make up its magnitude. -/
theorem signedUnits_mul_zpow {significand : ℕ} {exponent unit : ℤ} (h : unit ≤ exponent) :
    (signedUnits false significand exponent unit : ℚ) * 2 ^ unit = significand * 2 ^ exponent := by
  have htwo : ∀ k : ℕ, (Nat.pow 2 k : ℕ) = 2 ^ k := fun _ => rfl
  obtain ⟨k, hk⟩ := Int.eq_ofNat_of_zero_le (Int.sub_nonneg_of_le h)
  obtain rfl : exponent = k + unit := by omega
  rw [signedUnits, if_neg Bool.false_ne_true, hk, Int.toNat_natCast, htwo,
    zpow_add₀ two_ne_zero, zpow_natCast]
  push_cast
  ring

/-- Numbers compare as what they are. -/
theorem Is.lt_iff (hx : x.Is a) (hy : y.Is b) : lt x y = true ↔ a < b := by
  obtain ⟨s, e, rfl, rfl⟩ := hx
  obtain ⟨t, f, rfl, rfl⟩ := hy
  rw [lt, decide_eq_true_eq, ← signedUnits_mul_zpow (min_le_left e f),
    ← signedUnits_mul_zpow (min_le_right e f), mul_lt_mul_iff_left₀ (by positivity), Int.cast_lt]

/-- The lesser of two numbers is their minimum. -/
theorem Is.lesser (hx : x.Is a) (hy : y.Is b) : (lesser x y).Is (min a b) := by
  have hne : x ≠ nan := by
    obtain ⟨s, e, rfl, -⟩ := hx
    exact nofun
  rw [Binary64.lesser, if_neg hne]
  by_cases hlt : b < a
  · rwa [if_pos ((hy.lt_iff hx).mpr hlt), min_eq_right hlt.le]
  · rwa [if_neg (mt (hy.lt_iff hx).mp hlt), min_eq_left (not_lt.mp hlt)]

/-- Every number is less than an infinite one. -/
theorem Is.lesser_infinite (hy : y.Is b) : Binary64.lesser (infinite false) y = y := by
  obtain ⟨s, e, rfl, -⟩ := hy
  rfl

/-- A number is cut off to its whole part, up to a limit. -/
theorem Is.toNatUpTo_eq (hx : x.Is a) (limit : ℕ) : toNatUpTo limit x = min ⌊a⌋₊ limit := by
  obtain ⟨s, e, rfl, rfl⟩ := hx
  obtain ⟨-, hratio⟩ := scaleQuotient_spec s e Nat.one_pos
  rw [Nat.cast_one, div_one] at hratio
  rw [← hratio, Nat.floor_div_eq_div]
  rfl

/-- Of a number and a whole bound, the lesser one has at most the bound for its whole part. -/
theorem toNatUpTo_lesser_le {bound : ℕ} (x : Binary64) (hy : y.Is bound) (limit : ℕ) :
    toNatUpTo limit (Binary64.lesser x y) ≤ bound := by
  have hself : toNatUpTo limit y ≤ bound := by
    rw [hy.toNatUpTo_eq, Nat.floor_natCast]
    exact min_le_left bound limit
  have ⟨t, f, hfinite, _⟩ := hy
  cases x with
  | nan => exact hself
  | infinite negative =>
    cases negative with
    | false => rwa [hy.lesser_infinite]
    | true =>
      rw [hfinite]
      exact Nat.zero_le bound
  | finite negative significand exponent =>
    cases negative with
    | false =>
      have hx : (finite false significand exponent).Is (significand * 2 ^ exponent) :=
        ⟨significand, exponent, rfl, rfl⟩
      rw [(hx.lesser hy).toNatUpTo_eq]
      calc min ⌊min (significand * 2 ^ exponent : ℚ) bound⌋₊ limit
          ≤ ⌊min (significand * 2 ^ exponent : ℚ) bound⌋₊ := min_le_left _ _
        _ ≤ ⌊(bound : ℚ)⌋₊ := Nat.floor_le_floor (min_le_right _ _)
        _ = bound := Nat.floor_natCast bound
    | true =>
      rw [Binary64.lesser, if_neg nofun]
      split
      · exact hself
      · exact Nat.zero_le bound

/-- The lesser of two numbers is cut off to no more than the first one is. -/
theorem AtMost.toNatUpTo_lesser_le (hx : x.AtMost a) (hy : y.Is b) (limit : ℕ) :
    (toNatUpTo limit (Binary64.lesser x y) : ℚ) ≤ a := by
  obtain ⟨value, hvalue, hle⟩ := hx
  have hnonneg : 0 ≤ value := by
    obtain ⟨s, e, -, rfl⟩ := hvalue
    positivity
  have hfloor : toNatUpTo limit (Binary64.lesser x y) ≤ ⌊value⌋₊ := by
    rw [(hvalue.lesser hy).toNatUpTo_eq]
    exact (min_le_left _ _).trans (Nat.floor_le_floor (min_le_left _ _))
  calc (toNatUpTo limit (Binary64.lesser x y) : ℚ)
      ≤ (⌊value⌋₊ : ℚ) := Nat.cast_le.mpr hfloor
    _ ≤ value := Nat.floor_le hnonneg
    _ ≤ a := hle

/-- The product of a natural number of at most 53 binary digits and a number that is at most a
quarter is at most a quarter of the natural number. -/
theorem Is.mul_atMost_quarter {n : ℕ} (hx : x.Is n) (hdigits : n ≤ 2 ^ 53)
    (hy : y.AtMost (1 / 4)) : (mul x y).AtMost (n / 4) := by
  obtain ⟨value, hvalue, hquarter⟩ := hy
  have hpoint : OnGrid (n / 4) := ⟨n, -2, hdigits, by decide, by norm_num [div_eq_mul_inv]⟩
  refine (hx.roundsTo_mul hvalue).atMost hpoint ?_ ?_
  · rw [div_eq_mul_one_div]
    exact mul_le_mul_of_nonneg_left hquarter n.cast_nonneg
  · calc (n / 4 : ℚ)
        ≤ n := div_le_self n.cast_nonneg (by norm_num)
      _ ≤ 2 ^ (53 : ℤ) := by exact_mod_cast hdigits
      _ < 2 ^ (1024 : ℤ) := zpow_lt_zpow_right₀ one_lt_two (by decide)

end

/-- What holds of the factors of a power and passes to products holds of the power. -/
theorem selectSquares_rel {P Q : ℕ → Binary64 → Prop}
    (hmul : ∀ {a b : ℕ} {x y : Binary64}, P a x → Q b y → P (a * b) (mul x y))
    (hsquare : ∀ {b : ℕ} {y : Binary64}, Q b y → Q (b * b) (mul y y)) {bits n : ℕ}
    (hn : n < 2 ^ bits) {a b : ℕ} {acc base : Binary64} (hacc : P a acc) (hbase : Q b base) :
    P (a * b ^ n) (selectSquares bits base acc n) := by
  induction bits generalizing n a b acc base with
  | zero =>
    obtain rfl : n = 0 := by omega
    rwa [pow_zero, mul_one]
  | succ bits ih =>
    have hselected : P (a * b ^ (n % 2)) (if n % 2 = 1 then mul acc base else acc) := by
      split
      · rename_i hodd
        rw [hodd, pow_one]
        exact hmul hacc hbase
      · rename_i heven
        rw [Nat.mod_two_ne_one.mp heven, pow_zero, mul_one]
        exact hacc
    have hsplit : a * b ^ n = a * b ^ (n % 2) * (b * b) ^ (n / 2) := by
      rw [← pow_two, ← pow_mul, mul_assoc, ← pow_add, Nat.mod_add_div]
    rw [hsplit, selectSquares]
    split
    · rename_i hlast
      rw [hlast, pow_zero, mul_one]
      exact hselected
    · exact ih (by omega) hselected (hsquare hbase)

/-- Whether a number stands for a positive natural number: it is that number as long as the number
has at most 53 binary digits, and not below `2 ^ 53` beyond that. -/
def Tracks (n : ℕ) (x : Binary64) : Prop :=
  0 < n ∧ (n < 2 ^ 53 ∧ x.Is n ∨ 2 ^ 53 ≤ n ∧ x.AtLeast (2 ^ 53 : ℕ))

/-- A number that is a natural number stands for it. -/
theorem Is.tracks {n : ℕ} {x : Binary64} (h : x.Is n) (hpos : 0 < n) : Tracks n x := by
  refine ⟨hpos, ?_⟩
  rcases Nat.lt_or_ge n (2 ^ 53) with hlt | hge
  · exact .inl ⟨hlt, h⟩
  · exact .inr ⟨hge, h.atLeast (Nat.cast_le.mpr hge)⟩

/-- A number is not below what it stands for, as far as that has at most 53 binary digits. -/
theorem Tracks.atLeast {n bound : ℕ} {x : Binary64} (h : Tracks n x) (hle : bound ≤ n)
    (hbound : bound ≤ 2 ^ 53) : x.AtLeast bound := by
  rcases h with ⟨-, ⟨-, hvalue⟩ | ⟨-, hinfinite | ⟨value, hvalue, hlarge⟩⟩⟩
  · exact hvalue.atLeast (Nat.cast_le.mpr hle)
  · exact .inl hinfinite
  · exact hvalue.atLeast ((Nat.cast_le.mpr hbound).trans hlarge)

/-- A number that stands for a natural number of at most 53 binary digits is that number. -/
theorem Tracks.is {n : ℕ} {x : Binary64} (h : Tracks n x) (hdigits : n < 2 ^ 53) : x.Is n :=
  (h.2.resolve_right fun hlarge => absurd hlarge.1 hdigits.not_ge).2

/-- A number that stands for a natural number is infinite or finite. -/
theorem Tracks.eq_infinite_or_is {n : ℕ} {x : Binary64} (h : Tracks n x) :
    x = infinite false ∨ ∃ value, x.Is value := by
  rcases h.2 with ⟨-, hvalue⟩ | ⟨-, hinfinite | ⟨value, hvalue, -⟩⟩
  · exact .inr ⟨n, hvalue⟩
  · exact .inl hinfinite
  · exact .inr ⟨value, hvalue⟩

/-- Of what a number stands for and a bound of at most 53 binary digits, the lesser one is found. -/
theorem Tracks.toNatUpTo_lesser {n bound limit : ℕ} {x y : Binary64} (hx : Tracks n x)
    (hy : y.Is bound) (hbound : bound < 2 ^ 53) (hlimit : bound ≤ limit) :
    toNatUpTo limit (lesser x y) = min n bound := by
  rcases hx.2 with ⟨-, hvalue⟩ | ⟨hlarge, hinfinite | ⟨value, hvalue, hle⟩⟩
  · rw [(hvalue.lesser hy).toNatUpTo_eq, ← Nat.cast_min, Nat.floor_natCast]
    omega
  · rw [hinfinite, hy.lesser_infinite, hy.toNatUpTo_eq, Nat.floor_natCast]
    omega
  · have hbelow : (bound : ℚ) ≤ value := (Nat.cast_le.mpr hbound.le).trans hle
    rw [(hvalue.lesser hy).toNatUpTo_eq, min_eq_right hbelow, Nat.floor_natCast]
    omega

/-- The product of two numbers stands for the product. -/
theorem Tracks.mul {m n : ℕ} {x y : Binary64} (hx : Tracks m x) (hy : Tracks n y) :
    Tracks (m * n) (mul x y) := by
  refine ⟨Nat.mul_pos hx.1 hy.1, ?_⟩
  rcases Nat.lt_or_ge (m * n) (2 ^ 53) with hlt | hge
  · refine .inl ⟨hlt, ?_⟩
    have hm : m < 2 ^ 53 := (Nat.le_mul_of_pos_right m hy.1).trans_lt hlt
    have hn : n < 2 ^ 53 := (Nat.le_mul_of_pos_left n hx.1).trans_lt hlt
    have hrounds := (hx.is hm).roundsTo_mul (hy.is hn)
    rw [← Nat.cast_mul] at hrounds
    exact hrounds.is_natCast hlt.le
  · refine .inr ⟨hge, ?_⟩
    -- One factor may be cut to `2 ^ 53` before they are multiplied, but the product is not less.
    have hbounds : 2 ^ 53 ≤ min m (2 ^ 53) * min n (2 ^ 53) := by
      rcases Nat.le_total (2 ^ 53) m with hm | hm
      · rw [Nat.min_eq_right hm]
        exact Nat.le_mul_of_pos_right _ (Nat.lt_min.mpr ⟨hy.1, by decide⟩)
      · rcases Nat.le_total (2 ^ 53) n with hn | hn
        · rw [Nat.min_eq_right hn]
          exact Nat.le_mul_of_pos_left _ (Nat.lt_min.mpr ⟨hx.1, by decide⟩)
        · rwa [Nat.min_eq_left hm, Nat.min_eq_left hn]
    refine AtLeast.mul (hx.atLeast (Nat.min_le_left _ _) (Nat.min_le_right _ _))
      (hy.atLeast (Nat.min_le_left _ _) (Nat.min_le_right _ _)) ?_ ?_ (onGrid_natCast le_rfl) ?_
    · exact Nat.cast_pos.mpr (Nat.lt_min.mpr ⟨hx.1, by decide⟩)
    · exact Nat.cast_pos.mpr (Nat.lt_min.mpr ⟨hy.1, by decide⟩)
    · exact_mod_cast hbounds

/-- Whether a number is not below a given power of two. -/
def Grows (n : ℕ) (x : Binary64) : Prop :=
  (∃ k : ℕ, n = 2 ^ k) ∧ x.AtLeast n

/-- Every power of two is on the grid, and so is not lost in a product. -/
theorem Grows.mul_cases {m n : ℕ} {x y : Binary64} (hx : Grows m x) (hy : Grows n y) :
    Grows (m * n) (mul x y) ∧ ∃ exact, RoundsTo exact (mul x y) := by
  obtain ⟨⟨j, rfl⟩, hx⟩ := hx
  obtain ⟨⟨k, rfl⟩, hy⟩ := hy
  have hpos (i : ℕ) : (0 : ℚ) < (2 ^ i : ℕ) := Nat.cast_pos.mpr (Nat.two_pow_pos i)
  have hpoint : OnGrid (2 ^ j * 2 ^ k : ℕ) := by
    rw [← pow_add, Nat.cast_pow, Nat.cast_ofNat, ← zpow_natCast]
    exact onGrid_two_zpow (by omega)
  refine ⟨⟨⟨j + k, (pow_add 2 j k).symm⟩, ?_⟩, ?_⟩
  · exact hx.mul hy (hpos j) (hpos k) hpoint (Nat.cast_mul _ _).le
  · rcases hx.mul_cases hy (hpos j) (hpos k) with hinfinite | ⟨exact, -, hrounds⟩
    · rw [hinfinite]
      exact ⟨_, roundsTo_infinite⟩
    · exact ⟨exact, hrounds⟩

theorem is_one : one.Is 1 := by
  have h := is_ofNat (n := 1) (by decide)
  rwa [Nat.cast_one] at h

section

variable {base : Binary64} {m n : ℕ}

/-- A power that is not reciprocal stands for the power of what its base stands for. -/
theorem Tracks.selectSquares (h : Tracks m base) (hn : n < 2 ^ 32) :
    Tracks (m ^ n) (selectSquares 32 base one n) := by
  have hone : Tracks 1 one := Is.tracks (by rw [Nat.cast_one]; exact is_one) Nat.one_pos
  have hpower := selectSquares_rel (fun hx hy => Tracks.mul hx hy) (fun hy => Tracks.mul hy hy) hn
    hone h
  rwa [one_mul] at hpower

/-- Powers of a number that is at least two are infinite from the exponent 1024 on. -/
theorem selectSquares_eq_infinite (h : base.AtLeast 2) (hn : n < 2 ^ 32) (hlarge : 1024 ≤ n) :
    selectSquares 32 base one n = infinite false := by
  have hone : Grows 1 one ∧ ∃ exact, RoundsTo exact one := by
    refine ⟨⟨⟨0, rfl⟩, ?_⟩, 1, ?_⟩
    · exact is_one.atLeast Nat.cast_one.le
    · have hrounds := roundsTo_ofNat 1
      rwa [Nat.cast_one] at hrounds
  have hbase : Grows 2 base := ⟨⟨1, rfl⟩, by rwa [Nat.cast_ofNat]⟩
  obtain ⟨⟨-, hpower⟩, exact, hrounds⟩ := selectSquares_rel
    (P := fun a x => Grows a x ∧ ∃ exact, RoundsTo exact x) (fun hx hy => hx.1.mul_cases hy)
    (fun hy => (hy.mul_cases hy).1) hn hone hbase
  refine hrounds.eq_infinite_of_atLeast (hpower.mono ?_)
  rw [one_mul, Nat.cast_pow, Nat.cast_ofNat, ← zpow_natCast]
  exact zpow_le_zpow_right₀ one_le_two (by omega)

/-- A power with a natural number as its exponent is not reciprocal. -/
theorem power_natCast (base : Binary64) (n : ℕ) :
    power base n = selectSquares 32 base one n := by
  rw [power, if_neg (by omega), Int.natAbs_natCast]

/-- A power with a negative exponent is reciprocal. -/
theorem power_neg_natCast (base : Binary64) (hpos : 0 < n) :
    power base (-n) = div one (selectSquares 32 base one n) := by
  rw [power, if_pos (by omega), Int.natAbs_neg, Int.natAbs_natCast]

/-- Reciprocal powers of one are one. -/
theorem Is.power_neg_one (h : base.Is 1) (hpos : 0 < n) (hn : n < 2 ^ 32) :
    (power base (-n)).Is 1 := by
  have htracks : Tracks 1 base := Is.tracks (by rwa [Nat.cast_one]) Nat.one_pos
  have hpower := htracks.selectSquares hn
  rw [one_pow] at hpower
  have hone := hpower.is (by decide)
  rw [Nat.cast_one] at hone
  have hrounds := is_one.roundsTo_div hone one_pos
  rw [div_one, ← Nat.cast_one] at hrounds
  rw [power_neg_natCast base hpos, ← Nat.cast_one]
  exact hrounds.is_natCast (by decide)

/-- The reciprocal of a number that is at least four is at most a quarter. -/
theorem AtLeast.div_one_atMost {x : Binary64} (h : x.AtLeast 4) : (div one x).AtMost (1 / 4) := by
  rcases h.cases (by norm_num) with rfl | ⟨s, e, rfl, -, hvalue, hle⟩
  · refine ⟨0, ⟨0, minExponent, rfl, ?_⟩, by norm_num⟩
    rw [Nat.cast_zero, zero_mul]
  · have hpoint : OnGrid (1 / 4) := ⟨1, -2, by decide, by decide, by norm_num⟩
    refine (is_one.roundsTo_div hvalue (by linarith)).atMost hpoint ?_ ?_
    · exact one_div_le_one_div_of_le (by norm_num) hle
    · exact (by norm_num : (1 / 4 : ℚ) < 1).trans_le (one_le_zpow₀ one_le_two (by decide))

/-- Reciprocal powers of a number that is at least two are at most a quarter, but for the first
power. -/
theorem Tracks.power_neg_atMost (h : Tracks m base) (hbase : 2 ≤ m) (hpos : 2 ≤ n)
    (hn : n < 2 ^ 32) : (power base (-n)).AtMost (1 / 4) := by
  have hfour : 4 ≤ m ^ n := by
    calc 4 = 2 ^ 2 := rfl
      _ ≤ m ^ 2 := Nat.pow_le_pow_left hbase 2
      _ ≤ m ^ n := Nat.pow_le_pow_right (by omega) hpos
  have hpower := (h.selectSquares hn).atLeast hfour (by decide)
  rw [Nat.cast_ofNat] at hpower
  rw [power_neg_natCast base (by omega)]
  exact hpower.div_one_atMost

/-- Reciprocal powers of a number that is at least two vanish from the exponent 1024 on. -/
theorem power_neg_is_zero (h : base.AtLeast 2) (hn : n < 2 ^ 32) (hlarge : 1024 ≤ n) :
    (power base (-n)).Is 0 := by
  rw [power_neg_natCast base (by omega), selectSquares_eq_infinite h hn hlarge]
  exact ⟨0, minExponent, rfl, by rw [Nat.cast_zero, zero_mul]⟩

end

end StoryEngine.Binary64

import StoryEngine.Proofs.Binary64.Power
import StoryEngine.Proofs.Http.Retries

/-!
# Delays as the formula has them

By the formula, the delay after an attempt is the first delay times a power of the factor, up to a
bound. It is computed in double precision, with a signed exponent. Rounding does no harm, as the
bound is small and what is not below it is not rounded to below it. But the exponent wraps around
from some attempt on, and a power that is infinite makes no product with a first delay of zero.
-/

namespace StoryEngine.Http

open Binary64

namespace RetryPolicy

/-- Whether the factor of a policy is a positive natural number, and its delays in whole
milliseconds have at most 53 binary digits. -/
structure HasFactor (policy : RetryPolicy) (factor : ℕ) : Prop where
  pos : 0 < factor
  multiplier : policy.multiplier.Is factor
  initialDelay : wholeMillis policy.initialDelay < 2 ^ 53
  maxDelay : wholeMillis policy.maxDelay < 2 ^ 53

/-- The delay after an attempt by the formula, in milliseconds. -/
def exactDelay (policy : RetryPolicy) (factor : ℕ) (attempt : UInt32) : ℕ :=
  min (wholeMillis policy.initialDelay * factor ^ (attempt.toNat - 1)) (wholeMillis policy.maxDelay)

/-- Whether the computation after an attempt goes as the formula has it. -/
inductive Regular (policy : RetryPolicy) (factor : ℕ) (attempt : UInt32) : Prop
  /-- The delays do not grow. -/
  | steady (hfactor : factor = 1)
  /-- No delay is allowed. -/
  | barred (hbound : wholeMillis policy.maxDelay = 0)
  /-- The delays grow, and the exponent does not wrap around. -/
  | growing (hstart : 0 < wholeMillis policy.initialDelay) (hword : attempt.toNat ≤ 2 ^ 31)
  /-- There is nothing to grow, and the power is not infinite. -/
  | idle (hstart : wholeMillis policy.initialDelay = 0)
    (hpower : policy.multiplier.power (exponentFor attempt) ≠ infinite false)

/-- The delay after an attempt before it is bounded. -/
def grown (policy : RetryPolicy) (attempt : UInt32) : Binary64 :=
  (ofNat (wholeMillis policy.initialDelay)).mul (policy.multiplier.power (exponentFor attempt))

section

variable {policy : RetryPolicy} {factor : ℕ} {attempt : UInt32}

/-- The exponent is the number of attempts before, as long as a signed word can count them. -/
theorem exponentFor_of_le (h : attempt.toNat ≤ 2 ^ 31) :
    exponentFor attempt = (attempt.toNat - 1 : ℕ) := by
  have hsize : UInt32.size = 2 ^ 32 := rfl
  unfold exponentFor
  rw [Int.bmod_def, hsize]
  omega

/-- From then on the exponent is negative, and goes up to minus two. -/
theorem exponentFor_of_lt (h : 2 ^ 31 < attempt.toNat) :
    ∃ n : ℕ, exponentFor attempt = -n ∧ 2 ≤ n ∧ n ≤ 2 ^ 31 ∧ attempt.toNat + n = 2 ^ 32 + 1 := by
  have hsize : UInt32.size = 2 ^ 32 := rfl
  have hword : attempt.toNat < 2 ^ 32 := attempt.toNat_lt
  refine ⟨2 ^ 32 + 1 - attempt.toNat, ?_, by omega, by omega, by omega⟩
  unfold exponentFor
  rw [Int.bmod_def, hsize]
  omega

/-- The exponent is right exactly as long as it does not wrap around. -/
theorem exponentFor_eq_iff :
    exponentFor attempt = (attempt.toNat - 1 : ℕ) ↔ attempt.toNat ≤ 2 ^ 31 := by
  refine ⟨fun heq => ?_, exponentFor_of_le⟩
  by_contra hlarge
  obtain ⟨n, hneg, htwo, -⟩ := exponentFor_of_lt (not_le.mp hlarge)
  omega

namespace HasFactor

variable (h : HasFactor policy factor)

include h

theorem is_initialDelay :
    (ofNat (wholeMillis policy.initialDelay)).Is (wholeMillis policy.initialDelay : ℕ) :=
  is_ofNat h.initialDelay.le

theorem is_maxDelay : (ofNat (wholeMillis policy.maxDelay)).Is (wholeMillis policy.maxDelay : ℕ) :=
  is_ofNat h.maxDelay.le

theorem tracks_multiplier : Tracks factor policy.multiplier :=
  h.multiplier.tracks h.pos

theorem atLeast_multiplier (hfactor : 2 ≤ factor) : policy.multiplier.AtLeast 2 :=
  h.multiplier.atLeast (Nat.ofNat_le_cast.mpr hfactor)

/-- The bound fits into the word that delays are cut off to. -/
theorem maxDelay_le : wholeMillis policy.maxDelay ≤ UInt64.size - 1 := by
  have hbound := h.maxDelay
  have hsize : UInt64.size = 2 ^ 64 := rfl
  omega

/-- No delay is above the bound. -/
theorem delayFor_le (attempt : UInt32) : policy.delayFor attempt ≤ wholeMillis policy.maxDelay :=
  toNatUpTo_lesser_le (grown policy attempt) h.is_maxDelay _

/-- A delay that stands for a natural number is that number, up to the bound. -/
theorem delayFor_of_tracks {n : ℕ} (hgrown : Tracks n (grown policy attempt)) :
    policy.delayFor attempt = min n (wholeMillis policy.maxDelay) :=
  hgrown.toNatUpTo_lesser h.is_maxDelay h.maxDelay h.maxDelay_le

/-- A delay that is a natural number is that number, up to the bound. -/
theorem delayFor_of_is {n : ℕ} (hgrown : (grown policy attempt).Is n) :
    policy.delayFor attempt = min n (wholeMillis policy.maxDelay) := by
  have hbounded := hgrown.lesser h.is_maxDelay
  rw [← Nat.cast_min] at hbounded
  have hfits := h.maxDelay_le
  calc policy.delayFor attempt
      = min ⌊((min n (wholeMillis policy.maxDelay) : ℕ) : ℚ)⌋₊ (UInt64.size - 1) :=
        hbounded.toNatUpTo_eq _
    _ = min n (wholeMillis policy.maxDelay) := by
        rw [Nat.floor_natCast]
        omega

/-- The product of no delay and an infinite power is no number, and gives way to the bound. -/
theorem delayFor_of_infinite (hstart : wholeMillis policy.initialDelay = 0)
    (hpower : policy.multiplier.power (exponentFor attempt) = infinite false) :
    policy.delayFor attempt = wholeMillis policy.maxDelay := by
  have hgrown : grown policy attempt = nan := by
    rw [grown, hstart, hpower]
    rfl
  have hbounded : policy.delayFor attempt =
      toNatUpTo (UInt64.size - 1) (lesser nan (ofNat (wholeMillis policy.maxDelay))) := by
    rw [← hgrown]
    rfl
  rw [hbounded, lesser, if_pos rfl, h.is_maxDelay.toNatUpTo_eq, Nat.floor_natCast]
  exact min_eq_left h.maxDelay_le

/-- As long as the exponent does not wrap around, the power is that of the formula. -/
theorem tracks_power (hword : attempt.toNat ≤ 2 ^ 31) :
    Tracks (factor ^ (attempt.toNat - 1)) (policy.multiplier.power (exponentFor attempt)) := by
  rw [exponentFor_of_le hword, power_natCast]
  exact h.tracks_multiplier.selectSquares (by omega)

/-- Once the exponent has wrapped around, the power is at most a quarter. -/
theorem power_atMost (hfactor : 2 ≤ factor) (hword : 2 ^ 31 < attempt.toNat) :
    (policy.multiplier.power (exponentFor attempt)).AtMost (1 / 4) := by
  obtain ⟨n, hexponent, htwo, hle, -⟩ := exponentFor_of_lt hword
  rw [hexponent]
  exact h.tracks_multiplier.power_neg_atMost hfactor htwo (by omega)

/-- The power after the attempt that the exponent wraps around at is zero. -/
theorem power_is_zero (hfactor : 2 ≤ factor) (hword : attempt.toNat = 2 ^ 31 + 1) :
    (policy.multiplier.power (exponentFor attempt)).Is 0 := by
  obtain ⟨n, hexponent, -, -, hsum⟩ := @exponentFor_of_lt attempt (by omega)
  rw [hexponent]
  exact power_neg_is_zero (h.atLeast_multiplier hfactor) (by omega) (by omega)

/-- Every power of one is one, of whatever sign its exponent is. -/
theorem is_one_power (hfactor : factor = 1) (attempt : UInt32) :
    (policy.multiplier.power (exponentFor attempt)).Is (1 : ℕ) := by
  subst hfactor
  rcases Nat.lt_or_ge (2 ^ 31) attempt.toNat with hlt | hle
  · obtain ⟨n, hexponent, htwo, hbound, -⟩ := exponentFor_of_lt hlt
    have hbase := h.multiplier
    rw [Nat.cast_one] at hbase ⊢
    rw [hexponent]
    exact hbase.power_neg_one (by omega) (by omega)
  · have hpower := h.tracks_power hle
    rw [one_pow] at hpower
    exact hpower.is (by decide)

/-- A power is infinite or finite. -/
theorem power_cases (attempt : UInt32) :
    policy.multiplier.power (exponentFor attempt) = infinite false ∨
      ∃ value, (policy.multiplier.power (exponentFor attempt)).Is value := by
  rcases Nat.lt_or_ge (2 ^ 31) attempt.toNat with hlt | hle
  · rcases Nat.lt_or_ge 1 factor with hmore | hone
    · obtain ⟨value, hvalue, -⟩ := h.power_atMost hmore hlt
      exact .inr ⟨value, hvalue⟩
    · exact .inr ⟨_, h.is_one_power (Nat.le_antisymm hone h.pos) attempt⟩
  · exact (h.tracks_power hle).eq_infinite_or_is

/-- If the delays do not grow, they are as the formula has them. -/
theorem delayFor_of_steady (hfactor : factor = 1) (attempt : UInt32) :
    policy.delayFor attempt = exactDelay policy factor attempt := by
  have hrounds := h.is_initialDelay.roundsTo_mul (h.is_one_power hfactor attempt)
  rw [← Nat.cast_mul, mul_one] at hrounds
  have hgrown := h.delayFor_of_is (hrounds.is_natCast h.initialDelay.le)
  rw [hgrown, exactDelay, hfactor, one_pow, mul_one]

/-- Delays that grow are as the formula has them as long as the exponent does not wrap around. -/
theorem delayFor_of_growing (hstart : 0 < wholeMillis policy.initialDelay)
    (hword : attempt.toNat ≤ 2 ^ 31) :
    policy.delayFor attempt = exactDelay policy factor attempt :=
  h.delayFor_of_tracks ((h.is_initialDelay.tracks hstart).mul (h.tracks_power hword))

/-- If there is nothing to grow, there is no delay as long as the power is not infinite. -/
theorem delayFor_of_idle (hstart : wholeMillis policy.initialDelay = 0)
    (hpower : policy.multiplier.power (exponentFor attempt) ≠ infinite false) :
    policy.delayFor attempt = 0 := by
  obtain ⟨value, hvalue⟩ := (h.power_cases attempt).resolve_left hpower
  have hrounds := h.is_initialDelay.roundsTo_mul hvalue
  rw [hstart, Nat.cast_zero, zero_mul, ← Nat.cast_zero] at hrounds
  rw [h.delayFor_of_is (by rw [grown, hstart]; exact hrounds.is_natCast (by decide)), Nat.zero_min]

/-- Once the exponent has wrapped around, delays that are to grow have shrunk to a quarter of the
first one at most. -/
theorem four_mul_delayFor_le (hfactor : 2 ≤ factor) (hword : 2 ^ 31 < attempt.toNat) :
    4 * policy.delayFor attempt ≤ wholeMillis policy.initialDelay := by
  have hgrown : (grown policy attempt).AtMost (wholeMillis policy.initialDelay / 4) :=
    h.is_initialDelay.mul_atMost_quarter h.initialDelay.le (h.power_atMost hfactor hword)
  have hdelay : (policy.delayFor attempt : ℚ) ≤ wholeMillis policy.initialDelay / 4 :=
    hgrown.toNatUpTo_lesser_le h.is_maxDelay _
  have hscaled : 4 * (policy.delayFor attempt : ℚ) ≤ wholeMillis policy.initialDelay := by linarith
  exact_mod_cast hscaled

/-- By the formula, delays that are to grow have long reached the bound when the exponent wraps
around. -/
theorem exactDelay_of_lt (hfactor : 2 ≤ factor) (hstart : 0 < wholeMillis policy.initialDelay)
    (hword : 2 ^ 31 < attempt.toNat) :
    exactDelay policy factor attempt = wholeMillis policy.maxDelay := by
  refine Nat.min_eq_right ?_
  calc wholeMillis policy.maxDelay
      ≤ 2 ^ 53 := h.maxDelay.le
    _ ≤ 2 ^ (attempt.toNat - 1) := Nat.pow_le_pow_right (by decide) (by omega)
    _ ≤ factor ^ (attempt.toNat - 1) := Nat.pow_le_pow_left hfactor _
    _ ≤ wholeMillis policy.initialDelay * factor ^ (attempt.toNat - 1) :=
      Nat.le_mul_of_pos_left _ hstart

/-- The delay after a regular attempt is as the formula has it. -/
theorem delayFor_of_regular (hregular : Regular policy factor attempt) :
    policy.delayFor attempt = exactDelay policy factor attempt := by
  cases hregular with
  | steady hfactor => exact h.delayFor_of_steady hfactor attempt
  | barred hbound =>
    have hle := h.delayFor_le attempt
    rw [hbound, Nat.le_zero] at hle
    rw [hle, exactDelay, hbound, Nat.min_zero]
  | growing hstart hword => exact h.delayFor_of_growing hstart hword
  | idle hstart hpower =>
    rw [h.delayFor_of_idle hstart hpower, exactDelay, hstart, Nat.zero_mul, Nat.zero_min]

/-- Unless the first delay is four times the bound, only the delays after regular attempts are as
the formula has them. -/
theorem regular_of_delayFor_eq
    (hsmall : wholeMillis policy.initialDelay < 4 * wholeMillis policy.maxDelay)
    (heq : policy.delayFor attempt = exactDelay policy factor attempt) :
    Regular policy factor attempt := by
  rcases Nat.lt_or_ge 1 factor with hmore | hone
  · rcases Nat.eq_zero_or_pos (wholeMillis policy.initialDelay) with hstart | hstart
    · refine .idle hstart fun hpower => ?_
      have hmissed := h.delayFor_of_infinite hstart hpower
      rw [heq, exactDelay, hstart, Nat.zero_mul, Nat.zero_min] at hmissed
      omega
    · refine .growing hstart (not_lt.mp fun hword => ?_)
      have hexact := h.exactDelay_of_lt hmore hstart hword
      have hshrunk := h.four_mul_delayFor_le hmore hword
      omega
  · exact .steady (Nat.le_antisymm hone h.pos)

/-- Only policies whose delays do not grow, and those that allow no delay, have all delays as the
formula has them. -/
theorem forall_delayFor_eq_iff :
    (∀ attempt : UInt32, 1 ≤ attempt.toNat →
        policy.delayFor attempt = exactDelay policy factor attempt) ↔
      factor = 1 ∨ wholeMillis policy.maxDelay = 0 := by
  constructor
  · intro hall
    by_contra hgrows
    obtain ⟨hfactor, hbound⟩ := not_or.mp hgrows
    have hmore : 2 ≤ factor := by
      have hpos := h.pos
      omega
    rcases Nat.eq_zero_or_pos (wholeMillis policy.initialDelay) with hstart | hstart
    · have hcount : (1025 : UInt32).toNat = 1025 := rfl
      have hpower : policy.multiplier.power (exponentFor 1025) = infinite false := by
        rw [exponentFor_of_le (by rw [hcount]; decide), power_natCast, hcount]
        exact selectSquares_eq_infinite (h.atLeast_multiplier hmore) (by decide) (by decide)
      have hmissed := h.delayFor_of_infinite hstart hpower
      rw [hall 1025 (by decide), exactDelay, hstart, Nat.zero_mul, Nat.zero_min] at hmissed
      exact hbound hmissed.symm
    · have hcount : (2147483649 : UInt32).toNat = 2 ^ 31 + 1 := rfl
      have hzero := h.is_initialDelay.roundsTo_mul (h.power_is_zero hmore hcount)
      rw [mul_zero, ← Nat.cast_zero] at hzero
      have hmissed := h.delayFor_of_is (hzero.is_natCast (Nat.zero_le _))
      rw [hall 2147483649 (by decide), Nat.zero_min,
        h.exactDelay_of_lt hmore hstart (by omega)] at hmissed
      exact hbound hmissed
  · rintro (hfactor | hbound) attempt -
    · exact h.delayFor_of_regular (.steady hfactor)
    · exact h.delayFor_of_regular (.barred hbound)

/-- The formula has no delay shorter than one before it. -/
theorem exactDelay_mono {later : UInt32} (hle : attempt.toNat ≤ later.toNat) :
    exactDelay policy factor attempt ≤ exactDelay policy factor later :=
  min_le_min_right _ (Nat.mul_le_mul_left _ (Nat.pow_le_pow_right h.pos (by omega)))

end HasFactor

end

end RetryPolicy

open RetryPolicy

/-- The delays that a client has chosen, as its log has them. -/
def Event.delays (events : List Event) : List ℕ :=
  (Event.logs events).filterMap (·.number? "delay_ms")

section

variable {τ : Type} {policy : RetryPolicy} {factor : ℕ} {transport : Transport τ}
  {request : Request} {budget : UInt32} {s : τ} {number : ℕ}

/-- A client chooses a delay after every attempt but the one that decides. -/
theorem delays_settled :
    Event.delays (settled policy transport request budget s 0 number).trace =
      (List.range' 1 (number - 1)).map fun attempt => policy.delayFor (.ofNat attempt) := by
  have hwarning : (fun record => LogRecord.number? record "delay_ms") ∘
      retryWarning policy request budget (replyTo transport request s) =
        some ∘ fun attempt => policy.delayFor (.ofNat attempt) := by
    funext attempt
    simp [LogRecord.number?, retryWarning, attemptFailed, List.lookup_cons]
  have hlast (attempts : UInt32) (reply : Reply) :
      (exhaustion? request attempts reply).toList.filterMap (·.number? "delay_ms") = [] := by
    unfold exhaustion?
    cases transportFailure? reply <;> rfl
  rw [Event.delays, logs_settled, List.filterMap_append, hlast, List.append_nil,
    List.filterMap_map, hwarning, List.filterMap_eq_map]

end

/-- What the delays of a policy are. -/
structure FollowsFormula (policy : RetryPolicy) (factor : ℕ) : Prop where
  /-- After a regular attempt the delay is as the formula has it. -/
  regular : ∀ attempt, Regular policy factor attempt →
    policy.delayFor attempt = exactDelay policy factor attempt
  /-- After every other attempt it is not, unless the first delay is four times the bound. -/
  onlyRegular : wholeMillis policy.initialDelay < 4 * wholeMillis policy.maxDelay →
    ∀ attempt, policy.delayFor attempt = exactDelay policy factor attempt →
      Regular policy factor attempt
  /-- All delays are as the formula has them if they do not grow or none is allowed, and only
  then. -/
  always : (∀ attempt : UInt32, 1 ≤ attempt.toNat →
      policy.delayFor attempt = exactDelay policy factor attempt) ↔
    factor = 1 ∨ wholeMillis policy.maxDelay = 0
  /-- The exponent counts the attempts before as long as a signed word can. -/
  exponent : ∀ attempt,
    exponentFor attempt = (attempt.toNat - 1 : ℕ) ↔ attempt.toNat ≤ 2 ^ 31
  /-- No delay is above the bound. -/
  bounded : ∀ attempt, policy.delayFor attempt ≤ wholeMillis policy.maxDelay

/-- What the delays in a run of a client are that has a budget for a request. -/
structure DelaysRun (policy : RetryPolicy) (factor : ℕ) (budget : UInt32) (events : List Event) :
    Prop where
  /-- There is a delay after every attempt but the last, with its number. -/
  counted : ∃ retries < max 1 budget.toNat, Event.delays events =
    (List.range' 1 retries).map fun attempt => policy.delayFor (.ofNat attempt)
  /-- The client waits for these delays. -/
  waited : Event.waits events = Event.delays events
  /-- No delay is above the bound. -/
  bounded : ∀ delay ∈ Event.delays events, delay ≤ wholeMillis policy.maxDelay
  /-- No delay is shorter than one before it, if every attempt that may be retried is regular. -/
  sorted : (∀ attempt : UInt32, 1 ≤ attempt.toNat → attempt.toNat < max 1 budget.toNat →
      Regular policy factor attempt) →
    (Event.delays events).Pairwise (· ≤ ·)

section

variable {policy : RetryPolicy} {factor : ℕ}

/-- The delays of a run are those of its policy, one attempt after the other. -/
theorem delays_run {τ : Type} (h : policy.HasFactor factor) (transport : Transport τ)
    (budget : UInt32) (request : Request) (s : τ) :
    DelaysRun policy factor budget ((retrying policy transport budget request).run s).trace := by
  obtain ⟨number, hdecides, hrun⟩ := retrying_run policy transport budget request s
  have hpos := hdecides.pos
  have hle := hdecides.le
  have hfits := allowed_lt_size budget
  rw [hrun]
  constructor
  case counted => exact ⟨number - 1, by omega, delays_settled⟩
  case waited => rw [waits_settled, delays_settled]
  case bounded =>
    intro delay hdelay
    rw [delays_settled] at hdelay
    obtain ⟨attempt, -, rfl⟩ := List.mem_map.mp hdelay
    exact h.delayFor_le _
  case sorted =>
    intro hregular
    rw [delays_settled, List.pairwise_map]
    refine (List.pairwise_lt_range' ..).imp_of_mem fun {earlier later} hearlier hlater hlt => ?_
    have hword {attempt : ℕ} (hmem : attempt ∈ List.range' 1 (number - 1)) :
        (UInt32.ofNat attempt).toNat = attempt := by
      have hrange := List.mem_range'_1.mp hmem
      exact UInt32.toNat_ofNat_of_lt' (by omega)
    have hexact {attempt : ℕ} (hmem : attempt ∈ List.range' 1 (number - 1)) :
        policy.delayFor (.ofNat attempt) = exactDelay policy factor (.ofNat attempt) := by
      have hrange := List.mem_range'_1.mp hmem
      refine h.delayFor_of_regular (hregular _ ?_ ?_)
      all_goals
        rw [hword hmem]
        omega
    rw [hexact hearlier, hexact hlater]
    refine h.exactDelay_mono ?_
    rw [hword hearlier, hword hlater]
    exact hlt.le

/-- A policy with a whole factor follows its formula after every attempt that is regular, and the
delays of its runs do not decrease as long as the attempts are. -/
theorem delays_follow_formula (h : policy.HasFactor factor) :
    FollowsFormula policy factor ∧
      ∀ (τ : Type) (transport : Transport τ) (budget : UInt32) (request : Request) (s : τ),
        DelaysRun policy factor budget ((retrying policy transport budget request).run s).trace := by
  refine ⟨?_, fun τ transport budget request s => delays_run h transport budget request s⟩
  constructor
  case regular => exact fun attempt => h.delayFor_of_regular
  case onlyRegular => exact fun hsmall attempt => h.regular_of_delayFor_eq hsmall
  case always => exact h.forall_delayFor_eq_iff
  case exponent => exact fun attempt => exponentFor_eq_iff
  case bounded => exact h.delayFor_le

end

/-- The standard policy doubles its delays. -/
theorem standard_hasFactor : RetryPolicy.standard.HasFactor 2 where
  pos := by decide
  multiplier := is_ofNat (n := 2) (by decide)
  initialDelay := by decide
  maxDelay := by decide

/-- The tenth delay of the standard policy is its bound. -/
theorem standard_tenth_delay :
    RetryPolicy.standard.HasFactor 2 ∧ RetryPolicy.standard.delayFor 10 = 2000 := by
  have hregular : Regular RetryPolicy.standard 2 10 := .growing (by decide) (by decide)
  exact ⟨standard_hasFactor,
    ((delays_follow_formula standard_hasFactor).1.regular 10 hregular).trans (by decide)⟩

/-- A policy whose delays double, with none at first. -/
def idlePolicy : RetryPolicy := { RetryPolicy.standard with initialDelay := 0 }

/-- The delays of the standard policy vanish when the exponent wraps around. Those of a policy that
starts with none jump to the bound when the power is infinite. -/
theorem delays_miss_formula :
    (RetryPolicy.standard.HasFactor 2 ∧
      RetryPolicy.standard.delayFor 2147483648 = 2000 ∧
      RetryPolicy.standard.delayFor 2147483649 = 0 ∧
      exactDelay RetryPolicy.standard 2 2147483649 = 2000) ∧
    (idlePolicy.HasFactor 2 ∧
      idlePolicy.delayFor 1024 = 0 ∧
      idlePolicy.delayFor 1025 = 2000 ∧
      exactDelay idlePolicy 2 1025 = 0) := by
  have hidle : idlePolicy.HasFactor 2 :=
    { standard_hasFactor with initialDelay := by decide }
  have hstart : wholeMillis idlePolicy.initialDelay = 0 := rfl
  refine ⟨⟨standard_hasFactor, by decide +kernel, by decide +kernel, ?_⟩,
    ⟨hidle, by decide +kernel, by decide +kernel, ?_⟩⟩
  · exact standard_hasFactor.exactDelay_of_lt (by decide) (by decide) (by decide)
  · rw [exactDelay, hstart, Nat.zero_mul, Nat.zero_min]

end StoryEngine.Http

import StoryEngine.App.Config
import StoryEngine.Proofs.Text.Numeral

/-!
# Settings and their variables

Each setting of an application goes by a variable of its own. A host is taken as it is; a number is
taken from every numeral of it, if it is within bounds, and any other text leaves the default and one
warning. Settings that are written out as variables are taken back as they were, provided that the
budget of attempts is not zero, which no variable can make it.
-/

namespace StoryEngine.AppConfig

open Text

/-- A variable that should hold a number: its name, the bounds of the number, and the number that
counts without it. -/
structure NumberVariable where
  name : String
  least : Nat
  most : Nat
  standard : Nat

/-- The variable of the port. -/
def portVariable : NumberVariable where
  name := "SYNAPSE_PORT"
  least := 0
  most := 65535
  standard := defaults.synapsePort.toNat

/-- The variable of the budget of attempts. -/
def attemptsVariable : NumberVariable where
  name := "HTTP_MAX_ATTEMPTS"
  least := 1
  most := 4294967295
  standard := defaults.httpMaxAttempts.toNat

namespace NumberVariable

/-- Whether a text names a number that a variable may hold. -/
structure Fits (v : NumberVariable) (text : String) (n : Nat) : Prop where
  numeral : Numeral text n
  least_le : v.least ≤ n
  le_most : n ≤ v.most

/-- Whether a value and some warnings are what a variable gives: the number that it holds, if it
holds one that it may; otherwise the default, with one warning if it holds anything. -/
structure Settles (v : NumberVariable) (lookup : String → Option String) (value : Nat)
    (warnings : List LogRecord) : Prop where
  unset : lookup v.name = none → value = v.standard ∧ warnings = []
  taken : ∀ text n, lookup v.name = some text → v.Fits text n → value = n ∧ warnings = []
  refused : ∀ text, lookup v.name = some text → (∀ n, ¬ v.Fits text n) →
    value = v.standard ∧
      warnings = [{ level := .warn, message := s!"Invalid {v.name} value: {text}" }]

/-- Whether a reader takes the texts that fit a variable, and no others. -/
def ReadBy {α : Type} (v : NumberVariable) (read : String → Option α) (toNat : α → Nat) : Prop :=
  ∀ text n, (read text).map toNat = some n ↔ v.Fits text n

end NumberVariable

/-- Whether settings and warnings are those that some variables give, each setting by its own. -/
structure FollowVariables (lookup : String → Option String) (config : AppConfig)
    (warnings : List LogRecord) : Prop where
  synapseHost_eq : config.synapseHost = (lookup "SYNAPSE_HOST").getD defaults.synapseHost
  appDomain_eq : config.appDomain = (lookup "APP_DOMAIN").getD defaults.appDomain
  numbers : ∃ aboutPort aboutAttempts,
    portVariable.Settles lookup config.synapsePort.toNat aboutPort ∧
      attemptsVariable.Settles lookup config.httpMaxAttempts.toNat aboutAttempts ∧
      warnings = aboutPort ++ aboutAttempts

/-- Whether settings from two lookups agree in each field whose own variable is looked up alike. -/
structure AgreeByField (a b : String → Option String) (x y : AppConfig) : Prop where
  synapseHost : a "SYNAPSE_HOST" = b "SYNAPSE_HOST" → x.synapseHost = y.synapseHost
  synapsePort : a "SYNAPSE_PORT" = b "SYNAPSE_PORT" → x.synapsePort = y.synapsePort
  appDomain : a "APP_DOMAIN" = b "APP_DOMAIN" → x.appDomain = y.appDomain
  httpMaxAttempts :
    a "HTTP_MAX_ATTEMPTS" = b "HTTP_MAX_ATTEMPTS" → x.httpMaxAttempts = y.httpMaxAttempts

/-- Settings written out as variables: hosts as they are, numbers in decimal. -/
def written (config : AppConfig) : List (String × String) :=
  [("SYNAPSE_HOST", config.synapseHost),
    ("SYNAPSE_PORT", toString config.synapsePort.toNat),
    ("APP_DOMAIN", config.appDomain),
    ("HTTP_MAX_ATTEMPTS", toString config.httpMaxAttempts.toNat)]

namespace NumberVariable

variable {α : Type} {v : NumberVariable} {read : String → Option α} {toNat : α → Nat}
  {lookup other : String → Option String} {value value' : Nat} {warnings warnings' : List LogRecord}

theorem ReadBy.eq_none_iff (h : v.ReadBy read toNat) {text : String} :
    read text = none ↔ ∀ n, ¬ v.Fits text n := by
  rw [← Option.map_eq_none_iff (f := toNat), Option.eq_none_iff_forall_ne_some]
  exact forall_congr' fun n => not_congr (h text n)

/-- A setting that is read by such a reader goes by its variable. -/
theorem settles_of_readBy (h : v.ReadBy read toNat) {standard : α}
    (hstandard : toNat standard = v.standard) (lookup : String → Option String) :
    v.Settles lookup (toNat (((lookup v.name).bind read).getD standard))
      (warning? lookup v.name read).toList := by
  constructor
  case unset =>
    intro hheld
    rw [warning?, hheld]
    exact ⟨hstandard, rfl⟩
  case taken =>
    intro text n hheld hfits
    obtain ⟨x, hx, rfl⟩ := Option.map_eq_some_iff.mp ((h text n).mpr hfits)
    simp only [warning?, hheld, Option.bind_some, hx, Option.isSome_some, if_true]
    exact ⟨rfl, rfl⟩
  case refused =>
    intro text hheld hunfit
    have hx : read text = none := h.eq_none_iff.mpr hunfit
    simp only [warning?, hheld, Option.bind_some, hx, Option.isSome_none, Bool.false_eq_true,
      if_false]
    exact ⟨hstandard, rfl⟩

/-- A variable is not set, or it holds a text that fits it, or one that does not. -/
theorem held_cases (v : NumberVariable) (lookup : String → Option String) :
    lookup v.name = none ∨ (∃ text n, lookup v.name = some text ∧ v.Fits text n) ∨
      ∃ text, lookup v.name = some text ∧ ∀ n, ¬ v.Fits text n := by
  cases hheld : lookup v.name with
  | none => exact .inl rfl
  | some text =>
    by_cases hfits : ∃ n, v.Fits text n
    · obtain ⟨n, hfits⟩ := hfits
      exact .inr (.inl ⟨text, n, rfl, hfits⟩)
    · exact .inr (.inr ⟨text, rfl, not_exists.mp hfits⟩)

/-- A variable leaves one value and one list of warnings only. -/
theorem Settles.unique (h : v.Settles lookup value warnings)
    (h' : v.Settles other value' warnings') (hsame : lookup v.name = other v.name) :
    value = value' ∧ warnings = warnings' := by
  rcases v.held_cases lookup with hunset | ⟨text, n, hheld, hfits⟩ | ⟨text, hheld, hunfit⟩
  · obtain ⟨rfl, rfl⟩ := h.unset hunset
    obtain ⟨rfl, rfl⟩ := h'.unset (hsame ▸ hunset)
    exact ⟨rfl, rfl⟩
  · obtain ⟨rfl, rfl⟩ := h.taken text n hheld hfits
    obtain ⟨rfl, rfl⟩ := h'.taken text value (hsame ▸ hheld) hfits
    exact ⟨rfl, rfl⟩
  · obtain ⟨rfl, rfl⟩ := h.refused text hheld hunfit
    obtain ⟨rfl, rfl⟩ := h'.refused text (hsame ▸ hheld) hunfit
    exact ⟨rfl, rfl⟩

/-- No variable takes a setting below its lower bound, if the default is not. -/
theorem Settles.least_le (h : v.Settles lookup value warnings) (hstandard : v.least ≤ v.standard) :
    v.least ≤ value := by
  rcases v.held_cases lookup with hunset | ⟨text, n, hheld, hfits⟩ | ⟨text, hheld, hunfit⟩
  · rw [(h.unset hunset).1]
    exact hstandard
  · rw [(h.taken text n hheld hfits).1]
    exact hfits.least_le
  · rw [(h.refused text hheld hunfit).1]
    exact hstandard

/-- A number within bounds is taken from its print. -/
theorem Settles.eq_of_print (h : v.Settles lookup value warnings) {n : Nat}
    (hheld : lookup v.name = some (toString n)) (hleast : v.least ≤ n) (hmost : n ≤ v.most) :
    value = n ∧ warnings = [] :=
  h.taken _ n hheld ⟨numeral_toString n, hleast, hmost⟩

/-- Ports are read from the numerals up to the largest port. -/
theorem readBy_port? : portVariable.ReadBy port? UInt16.toNat := by
  intro text n
  have hsize : UInt16.size - 1 = portVariable.most := rfl
  have htoNat (m : Nat) (hm : m ≤ portVariable.most) : (UInt16.ofNat m).toNat = m :=
    UInt16.toNat_ofNat_of_lt' (Nat.lt_succ_of_le hm)
  constructor
  · intro hread
    rw [port?, Option.map_map, Option.map_eq_some_iff] at hread
    obtain ⟨m, hm, rfl⟩ := hread
    obtain ⟨hnumeral, hle⟩ := readUnsigned?_eq_some_iff.mp hm
    rw [Function.comp_apply, htoNat m hle]
    exact ⟨hnumeral, Nat.zero_le m, hle⟩
  · rintro ⟨hnumeral, -, hle⟩
    have hread := readUnsigned?_eq_some_iff.mpr ⟨hnumeral, hle⟩
    rw [port?, hsize, hread, Option.map_some, Option.map_some, htoNat n hle]

/-- Budgets are read from the numerals other than those of zero, up to the largest budget. -/
theorem readBy_attempts? : attemptsVariable.ReadBy attempts? UInt32.toNat := by
  intro text n
  have hsize : UInt32.size - 1 = attemptsVariable.most := rfl
  have htoNat (m : Nat) (hm : m ≤ attemptsVariable.most) : (UInt32.ofNat m).toNat = m :=
    UInt32.toNat_ofNat_of_lt' (Nat.lt_succ_of_le hm)
  constructor
  · intro hread
    obtain ⟨attempts, hattempts, rfl⟩ := Option.map_eq_some_iff.mp hread
    obtain ⟨m, hm, hpositive⟩ := Option.bind_eq_some_iff.mp hattempts
    obtain ⟨hnumeral, hle⟩ := readUnsigned?_eq_some_iff.mp hm
    split at hpositive
    next => cases hpositive
    next hne =>
      cases hpositive
      rw [htoNat m hle]
      exact ⟨hnumeral, Nat.pos_of_ne_zero hne, hle⟩
  · rintro ⟨hnumeral, hpositive, hle⟩
    have hread := readUnsigned?_eq_some_iff.mpr ⟨hnumeral, hle⟩
    have hne : n ≠ 0 := Nat.ne_of_gt hpositive
    simp only [attempts?, hsize, hread, Option.bind_eq_bind, Option.bind_some, if_neg hne,
      Option.pure_def, Option.map_some, htoNat n hle]

end NumberVariable

variable {lookup other : String → Option String} {config settings settings' : AppConfig}
  {warnings warnings' : List LogRecord}

/-- The settings that variables give, and the warnings about them, follow the variables. -/
theorem followVariables_ofVariables (lookup : String → Option String) :
    FollowVariables lookup (ofVariables lookup) (AppConfig.warnings lookup) where
  synapseHost_eq := rfl
  appDomain_eq := rfl
  numbers := ⟨_, _, NumberVariable.settles_of_readBy NumberVariable.readBy_port? rfl lookup,
    NumberVariable.settles_of_readBy NumberVariable.readBy_attempts? rfl lookup, rfl⟩

/-- Each setting depends on its own variable only. -/
theorem FollowVariables.agreeByField (h : FollowVariables lookup settings warnings)
    (h' : FollowVariables other settings' warnings') :
    AgreeByField lookup other settings settings' := by
  obtain ⟨_, _, hport, hattempts, -⟩ := h.numbers
  obtain ⟨_, _, hport', hattempts', -⟩ := h'.numbers
  constructor
  case synapseHost =>
    intro hsame
    rw [h.synapseHost_eq, h'.synapseHost_eq, hsame]
  case synapsePort =>
    intro hsame
    exact UInt16.toNat_inj.mp (hport.unique hport' hsame).1
  case appDomain =>
    intro hsame
    rw [h.appDomain_eq, h'.appDomain_eq, hsame]
  case httpMaxAttempts =>
    intro hsame
    exact UInt32.toNat_inj.mp (hattempts.unique hattempts' hsame).1

/-- A budget of attempts is never zero. -/
theorem FollowVariables.one_le_httpMaxAttempts (h : FollowVariables lookup settings warnings) :
    1 ≤ settings.httpMaxAttempts := by
  obtain ⟨_, _, -, hattempts, -⟩ := h.numbers
  exact UInt32.le_iff_toNat_le.mpr (hattempts.least_le (by decide))

/-- Settings with a budget are taken back from the variables as which they are written out. -/
theorem FollowVariables.eq_of_written (h : FollowVariables lookup settings warnings)
    (hheld : ∀ entry ∈ config.written, lookup entry.1 = some entry.2)
    (hbudget : 1 ≤ config.httpMaxAttempts) : settings = config ∧ warnings = [] := by
  simp only [written, List.forall_mem_cons] at hheld
  obtain ⟨hhost, hport, hdomain, hattempts, -⟩ := hheld
  obtain ⟨_, _, hportSettles, hattemptsSettles, rfl⟩ := h.numbers
  have hportMost : config.synapsePort.toNat ≤ portVariable.most :=
    Nat.le_of_lt_succ config.synapsePort.toNat_lt
  have hattemptsMost : config.httpMaxAttempts.toNat ≤ attemptsVariable.most :=
    Nat.le_of_lt_succ config.httpMaxAttempts.toNat_lt
  obtain ⟨hportEq, rfl⟩ := hportSettles.eq_of_print hport (Nat.zero_le _) hportMost
  obtain ⟨hattemptsEq, rfl⟩ := hattemptsSettles.eq_of_print hattempts
    (UInt32.le_iff_toNat_le.mp hbudget) hattemptsMost
  have hhostEq : settings.synapseHost = config.synapseHost := by
    rw [h.synapseHost_eq, hhost, Option.getD_some]
  have hdomainEq : settings.appDomain = config.appDomain := by
    rw [h.appDomain_eq, hdomain, Option.getD_some]
  refine ⟨?_, rfl⟩
  rw [AppConfig.mk.injEq]
  exact ⟨hhostEq, UInt16.toNat_inj.mp hportEq, hdomainEq, UInt32.toNat_inj.mp hattemptsEq⟩

/-- Whatever the variables hold, each setting goes by its own variable: a host is what it holds, a
number is taken exactly from the numerals of the numbers within bounds, and from any other text comes
the default with one warning; the budget of attempts is never zero. Variables as which settings are
written out give these settings without a warning, exactly if their budget is not zero. -/
theorem settings_follow_variables {σ : Type} (config : AppConfig)
    (lookup : String → Option String) (s : σ) :
    let loaded := (load lookup).run s
    ((∀ entry ∈ config.written, lookup entry.1 = some entry.2) →
      (loaded = ⟨config, s, []⟩ ↔ 1 ≤ config.httpMaxAttempts)) ∧
    loaded.state = s ∧
    FollowVariables lookup loaded.value loaded.trace ∧
    loaded.value.httpMaxAttempts ≠ 0 ∧
    ∀ other, AgreeByField lookup other loaded.value ((load other).run s).value := by
  intro loaded
  have hfollow : FollowVariables lookup loaded.value loaded.trace :=
    followVariables_ofVariables lookup
  have hbudget : 1 ≤ loaded.value.httpMaxAttempts := hfollow.one_le_httpMaxAttempts
  refine ⟨fun hheld => ⟨fun hloaded => ?_, fun hpositive => ?_⟩, rfl, hfollow, ?_, ?_⟩
  · -- What is loaded has a budget, so settings without one do not come back.
    rw [hloaded] at hbudget
    exact hbudget
  · obtain ⟨hvalue, htrace⟩ := hfollow.eq_of_written hheld hpositive
    rw [← hvalue, ← htrace]
    rfl
  · intro hzero
    rw [hzero] at hbudget
    exact absurd hbudget (by decide)
  · intro other
    exact hfollow.agreeByField (followVariables_ofVariables other)

/-- Settings with a port of four digits are read back. A port one too large leaves the default and a
warning, next to a budget that is taken in spite of its sign and zeros. -/
theorem port_is_refused_alone :
    let config : AppConfig := {
      synapseHost := "broker.internal"
      synapsePort := 9000
      appDomain := "example.org"
      httpMaxAttempts := 5 }
    let lookup (name : String) : Option String := config.written.lookup name
    let mixed (name : String) : Option String :=
      [("SYNAPSE_PORT", "65536"), ("HTTP_MAX_ATTEMPTS", "+007")].lookup name
    ((∀ entry ∈ config.written, lookup entry.1 = some entry.2) ∧ 1 ≤ config.httpMaxAttempts ∧
      (load lookup).run () = ⟨config, (), []⟩) ∧
    (mixed "SYNAPSE_PORT" = some "65536" ∧ (∀ n, ¬ portVariable.Fits "65536" n) ∧
      mixed "HTTP_MAX_ATTEMPTS" = some "+007" ∧ attemptsVariable.Fits "+007" 7 ∧
      ((load mixed).run ()).value.synapsePort.toNat = 80 ∧
      ((load mixed).run ()).value.httpMaxAttempts.toNat = 7 ∧
      ((load mixed).run ()).trace =
        [{ level := .warn, message := "Invalid SYNAPSE_PORT value: 65536" }]) := by
  intro config lookup mixed
  have hheld : ∀ entry ∈ config.written, lookup entry.1 = some entry.2 := by decide +kernel
  have hbudget : 1 ≤ config.httpMaxAttempts := by decide
  have hport : ∀ n, ¬ portVariable.Fits "65536" n :=
    NumberVariable.readBy_port?.eq_none_iff.mp (by decide +kernel)
  have hattempts : attemptsVariable.Fits "+007" 7 :=
    (NumberVariable.readBy_attempts? "+007" 7).mp (by decide +kernel)
  obtain ⟨-, -, hfollow, -⟩ := settings_follow_variables config mixed ()
  obtain ⟨_, _, hportSettles, hattemptsSettles, htrace⟩ := hfollow.numbers
  obtain ⟨hportValue, rfl⟩ := hportSettles.refused "65536" rfl hport
  obtain ⟨hattemptsValue, rfl⟩ := hattemptsSettles.taken "+007" 7 rfl hattempts
  exact ⟨⟨hheld, hbudget, ((settings_follow_variables config lookup ()).1 hheld).mpr hbudget⟩,
    rfl, hport, rfl, hattempts, hportValue, hattemptsValue, htrace⟩

end StoryEngine.AppConfig

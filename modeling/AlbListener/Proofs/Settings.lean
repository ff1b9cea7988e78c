import AlbListener.Proofs.Binary64.Positive
import AlbListener.Proofs.Binary64.Reader
import AlbListener.Proofs.Except
import AlbListener.Settings

/-!
# Settings within their bounds

Settings that are loaded allow at least one attempt and give a pass a positive time, and settings
that do not are refused (`Checked`). The time is compared with zero, though, and a NaN is not less
than zero nor equal to it: an environment that spells a NaN for it is loaded all the same.

Results:
* `PassSettings.refused_eq_false_iff`: which times are not refused.
* `Settings.checked_loaded`: what settings are loaded from.
* `Settings.bounded_iff`: what is loaded is within its bounds exactly if it has no NaN for the time.
-/

namespace AlbListener

/-! ## Steps that refuse values -/

section

variable {α β : Type} {P : α → Prop} {Q : β → Prop}

/-- A step gives a value with a property, or refuses the value of a variable. -/
inductive Checked (P : α → Prop) : Except Fault α → Prop
  | refused (reason : Invalid) : Checked P (.error (.invalid reason))
  | given {value : α} (h : P value) : Checked P (.ok value)

/-- The property may hold of the value because the step gives it. -/
theorem Checked.mono {step : Except Fault α} {P' : α → Prop} (h : Checked P step)
    (hP : ∀ value, step = .ok value → P value → P' value) : Checked P' step := by
  cases h with
  | refused reason => exact .refused reason
  | given h => exact .given (hP _ rfl h)

theorem Checked.bind {step : Except Fault α} {next : α → Except Fault β} (h : Checked P step)
    (hnext : ∀ value, step = .ok value → P value → Checked Q (next value)) :
    Checked Q (step >>= next) := by
  cases h with
  | refused reason => exact .refused reason
  | given h => exact hnext _ rfl h

theorem Checked.of_ok {step : Except Fault α} {value : α} (h : Checked P step)
    (hstep : step = .ok value) : P value := by
  cases h with
  | refused => cases hstep
  | given h => cases hstep; exact h

end

variable {env : Environment}

/-! ## Variables -/

namespace Environment

theorem checked_integer (env : Environment) (name default : String) :
    Checked (fun n => Text.readInt? (env.getD name default) = some n)
      (env.integer name default) := by
  unfold integer
  dsimp only
  split
  · rename_i n hn
    exact .given hn
  · exact .refused _

theorem checked_number (env : Environment) (name default : String) :
    Checked (fun x => Binary64.read? (env.getD name default) = some x)
      (env.number name default) := by
  unfold number
  dsimp only
  split
  · rename_i x hx
    exact .given hx
  · exact .refused _

theorem number_of_read? {name default : String} {x : Binary64}
    (h : Binary64.read? (env.getD name default) = some x) : env.number name default = .ok x := by
  unfold number
  dsimp only
  rw [h]

/-- The text that the number of attempts is read from. -/
def attemptsText (env : Environment) : String := env.getD "AWS_MAX_ATTEMPTS" "3"

/-- The text that the time for a pass is read from. -/
def timeoutText (env : Environment) : String := env.getD "RECONCILE_TIMEOUT" "120"

end Environment

/-! ## The provider -/

/-- The number of attempts is what its text stands for, and at least one. -/
theorem ProviderSettings.checked_ofEnvironment (env : Environment) :
    Checked (fun s => Text.readInt? env.attemptsText = some s.maxAttempts ∧ 1 ≤ s.maxAttempts)
      (ofEnvironment env) := by
  refine (env.checked_integer _ _).bind fun maxAttempts _ htext => ?_
  split_ifs with h
  · exact .refused _
  · refine (env.checked_integer _ _).bind fun connectTimeout _ _ => ?_
    refine (env.checked_integer _ _).bind fun readTimeout _ _ => ?_
    exact .given ⟨htext, Int.not_lt.mp h⟩

/-! ## A pass -/

namespace PassSettings

/-- What is not refused is positive, or a NaN. -/
theorem refused_eq_false_iff (timeout : Binary64) :
    refused timeout = false ↔ timeout.IsPositive ∨ timeout = .nan := by
  cases timeout with
  | nan => exact iff_of_true rfl (.inr rfl)
  | infinite negative =>
    cases negative with
    | true => exact iff_of_false Bool.noConfusion (by rintro (h | h) <;> cases h)
    | false => exact iff_of_true rfl (.inl rfl)
  | finite negative significand exponent =>
    rw [or_iff_left nofun, refused, Binary64.isZero, Binary64.IsPositive, Binary64.number]
    generalize Binary64.sign negative (significand * twoTo exponent) = scaled
    rw [Bool.or_eq_false_iff, beq_eq_false_iff_ne, ne_eq, Number.finite.injEq, Number.lt, Number.lt,
      decide_eq_false_iff_not, decide_eq_true_iff]
    omega

/-- The time is what its text stands for, and is not refused. -/
theorem checked_ofEnvironment (env : Environment) :
    Checked (fun s => Binary64.read? env.timeoutText = some s.timeout ∧
      (s.timeout.IsPositive ∨ s.timeout = .nan)) (ofEnvironment env) := by
  refine (env.checked_number _ _).bind fun timeout _ htext => ?_
  split_ifs with h
  · exact .refused _
  · exact .given ⟨htext, (refused_eq_false_iff timeout).mp (Bool.eq_false_iff.mpr h)⟩

/-- A time that is a number and not positive is refused. -/
theorem refused_of_not_isPositive {timeout : Binary64}
    (hread : Binary64.read? env.timeoutText = some timeout) (hpos : ¬timeout.IsPositive)
    (hnan : timeout ≠ .nan) : ofEnvironment env = .error (.invalid .reconcileTimeout) := by
  have hrefused : refused timeout = true := by
    rw [← Bool.not_eq_false, refused_eq_false_iff]
    exact not_or.mpr ⟨hpos, hnan⟩
  rw [ofEnvironment, bind_of_eq_ok (Environment.number_of_read? hread), if_pos hrefused]

end PassSettings

namespace Settings

/-- Settings allow an attempt, and give a pass a time. -/
structure Bounded (s : Settings) : Prop where
  attempts : 1 ≤ s.provider.maxAttempts
  time : s.pass.timeout.IsPositive

/-- An environment is refused for the time that it gives a pass, if not for its other settings. -/
structure TimeRefused (env : Environment) : Prop where
  pass : PassSettings.ofEnvironment env = .error (.invalid .reconcileTimeout)
  all : ∃ reason, ofEnvironment env = .error (.invalid reason)

/-- What is loaded: an allowed number of attempts, and a time that is not refused. -/
structure Loaded (env : Environment) (s : Settings) : Prop where
  attemptsText : Text.readInt? env.attemptsText = some s.provider.maxAttempts
  attempts : 1 ≤ s.provider.maxAttempts
  timeText : Binary64.read? env.timeoutText = some s.pass.timeout
  time : s.pass.timeout.IsPositive ∨ s.pass.timeout = .nan

theorem checked_loaded (env : Environment) :
    Checked (fun s => ProviderSettings.ofEnvironment env = .ok s.provider ∧ Loaded env s)
      (ofEnvironment env) := by
  refine (ProviderSettings.checked_ofEnvironment env).bind fun provider hprovider hattempts => ?_
  refine (PassSettings.checked_ofEnvironment env).bind fun pass _ htime => ?_
  exact .given ⟨hprovider, hattempts.1, hattempts.2, htime.1, htime.2⟩

/-- A time that is spelled as a NaN is not refused. -/
theorem exists_of_spellsNaN {provider : ProviderSettings}
    (hprovider : ProviderSettings.ofEnvironment env = .ok provider)
    (h : Binary64.SpellsNaN env.timeoutText) :
    ∃ s, ofEnvironment env = .ok s ∧ s.pass.timeout = .nan := by
  have htime : env.number "RECONCILE_TIMEOUT" "120" = .ok .nan :=
    Environment.number_of_read? (Binary64.read?_eq_nan_iff.mpr h)
  let pass : PassSettings :=
    { timeout := .nan
      logLevel := Text.upper (env.getD "LOG_LEVEL" "INFO")
      annotationPrefix := env.getD "ANNOTATION_PREFIX" Annotations.defaultPrefix }
  have hpass : PassSettings.ofEnvironment env = .ok pass := by
    rw [PassSettings.ofEnvironment, bind_of_eq_ok htime]
    rfl
  refine ⟨{ provider, pass }, ?_, rfl⟩
  rw [ofEnvironment, bind_of_eq_ok hprovider, bind_of_eq_ok hpass]
  rfl

/-- Settings with a NaN for the time are not within their bounds. -/
theorem not_checked_bounded {provider : ProviderSettings}
    (hprovider : ProviderSettings.ofEnvironment env = .ok provider)
    (h : Binary64.SpellsNaN env.timeoutText) : ¬Checked Bounded (ofEnvironment env) := by
  obtain ⟨s, hs, htime⟩ := exists_of_spellsNaN hprovider h
  exact fun hchecked => Binary64.not_isPositive_nan (htime ▸ (hchecked.of_ok hs).time)

/-- If the settings for a pass are refused, so are all. -/
theorem refused_of_pass {reason : Invalid}
    (h : PassSettings.ofEnvironment env = .error (.invalid reason)) :
    ∃ reason', ofEnvironment env = .error (.invalid reason') := by
  have hchecked := ProviderSettings.checked_ofEnvironment env
  rw [ofEnvironment]
  cases hprovider : ProviderSettings.ofEnvironment env with
  | ok provider =>
    rw [h]
    exact ⟨reason, rfl⟩
  | error fault =>
    rw [hprovider] at hchecked
    cases hchecked with
    | refused reason' => exact ⟨reason', rfl⟩

/-- A time that is a number and not positive is refused. -/
theorem TimeRefused.of_not_isPositive {timeout : Binary64}
    (hread : Binary64.read? env.timeoutText = some timeout) (hpos : ¬timeout.IsPositive)
    (hnan : timeout ≠ .nan) : TimeRefused env := by
  have hpass := PassSettings.refused_of_not_isPositive hread hpos hnan
  exact ⟨hpass, refused_of_pass hpass⟩

/-- What is loaded is within its bounds, or else a value is refused, unless the time for a pass
    spells a NaN and the settings for the provider are loaded. A NaN is all that can be out of bounds
    in what is loaded: any other text that stands for a double which is not positive is refused, and
    so is a decimal with a minus sign or of at most half of the smallest positive double. -/
theorem bounded_iff (env : Environment) :
    (Checked Bounded (ofEnvironment env) ↔ ¬(Binary64.SpellsNaN env.timeoutText ∧
      ∃ provider, ProviderSettings.ofEnvironment env = .ok provider)) ∧
    Checked (Loaded env) (ofEnvironment env) ∧
    (∀ x, Binary64.read? env.timeoutText = some x → ¬x.IsPositive →
      ¬Binary64.SpellsNaN env.timeoutText → TimeRefused env) ∧
    (∀ (negative : Bool) (digits : ℕ) (exponent : ℤ),
      Binary64.read? env.timeoutText = some (.ofDecimal negative digits exponent) →
      (negative = true ∨ (digits * 10 ^ exponent * unitsPerOne : ℚ) ≤ 1 / 2) →
        TimeRefused env) := by
  refine ⟨⟨?_, ?_⟩, ?_, ?_, ?_⟩
  · rintro hchecked ⟨hnan, provider, hprovider⟩
    exact not_checked_bounded hprovider hnan hchecked
  · intro hnan
    refine (checked_loaded env).mono fun s _ ⟨hprovider, hloaded⟩ => ?_
    refine ⟨hloaded.attempts, hloaded.time.resolve_right fun h => hnan ⟨?_, s.provider, hprovider⟩⟩
    exact Binary64.read?_eq_nan_iff.mp (h ▸ hloaded.timeText)
  · exact (checked_loaded env).mono fun s _ ⟨_, hloaded⟩ => hloaded
  · intro x hread hpos hspelled
    refine TimeRefused.of_not_isPositive hread hpos ?_
    rintro rfl
    exact hspelled (Binary64.read?_eq_nan_iff.mp hread)
  · intro negative digits exponent hread hsmall
    refine .of_not_isPositive hread (fun hpos => ?_)
      (Binary64.ofDecimal_ne_nan negative digits exponent)
    obtain ⟨hplus, hlarge⟩ := (Binary64.isPositive_ofDecimal_iff negative digits exponent).mp hpos
    rcases hsmall with rfl | hsmall
    · cases hplus
    · exact absurd hlarge (not_lt.mpr hsmall)

/-- With nothing else set, a NaN is loaded. -/
theorem nan_not_bounded : ¬Checked Bounded (ofEnvironment [("RECONCILE_TIMEOUT", "nan")]) := by
  have hprovider :
      ProviderSettings.ofEnvironment [("RECONCILE_TIMEOUT", "nan")] = .ok .default := rfl
  have hword : Binary64.SignedNaN "nan".toList := ⟨[], "nan".toList, rfl, .inl rfl, rfl⟩
  have hspelled : Binary64.SpellsNaN (Environment.timeoutText [("RECONCILE_TIMEOUT", "nan")]) :=
    ⟨[], "nan".toList, [], rfl, List.forall_mem_nil _, List.forall_mem_nil _, hword⟩
  exact not_checked_bounded hprovider hspelled

end Settings

end AlbListener

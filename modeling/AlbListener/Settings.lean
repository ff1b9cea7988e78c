import AlbListener.Binary64.Reader
import AlbListener.Fault
import AlbListener.Ingress.Annotations
import AlbListener.Text.Uppercase

/-!
# Settings

The settings come from the environment: how the provider is reached, and how long a pass may
take, what is recorded of it and how annotations are named. They are read once and kept until
they are reset.

Results:
* `get_get`: settings that are kept are not read again.
-/

namespace AlbListener

/-- The variables of an environment. -/
abbrev Environment := Entries String

namespace Environment

/-- The variables that settings are read from. -/
def variableNames : List String := [
  "AWS_REGION", "AWS_DEFAULT_REGION", "AWS_ENDPOINT_URL", "AWS_MAX_ATTEMPTS",
  "AWS_CONNECT_TIMEOUT", "AWS_READ_TIMEOUT", "RECONCILE_TIMEOUT", "LOG_LEVEL",
  "ANNOTATION_PREFIX"]

/-- The value of a variable, or another if it is not set. -/
def getD (env : Environment) (name default : String) : String :=
  (Entries.get? env name).getD default

/-- The value of a variable, unless it is empty. -/
def nonEmpty? (env : Environment) (name : String) : Option String :=
  match Entries.get? env name with
  | some value => if value = "" then none else some value
  | none => none

/-- The integer that a variable stands for. -/
def integer (env : Environment) (name default : String) : Except Fault Int :=
  let text := env.getD name default
  match Text.readInt? text with
  | some n => .ok n
  | none => .error (.invalid (.ofNumeral 10 text))

/-- The double that a variable stands for. -/
def number (env : Environment) (name default : String) : Except Fault Binary64 :=
  let text := env.getD name default
  match Binary64.read? text with
  | some x => .ok x
  | none => .error (.invalid (.number text))

end Environment

/-- How the provider is reached; the timeouts are in seconds (`AWSConfig`). -/
structure ProviderSettings where
  region? : Option String
  endpointUrl? : Option String
  maxAttempts : Int
  connectTimeout : Int
  readTimeout : Int

/-- How a pass is made; the timeout is in seconds (`ReconcilerConfig`). -/
structure PassSettings where
  timeout : Binary64
  logLevel : String
  annotationPrefix : String

/-- All settings (`Config`). -/
structure Settings where
  provider : ProviderSettings
  pass : PassSettings

namespace ProviderSettings

/-- The settings for the provider if nothing is set. -/
def default : ProviderSettings :=
  { region? := none, endpointUrl? := none, maxAttempts := 3, connectTimeout := 10,
    readTimeout := 30 }

/-- The settings for the provider in an environment (`AWSConfig.from_env`). -/
def ofEnvironment (env : Environment) : Except Fault ProviderSettings := do
  let maxAttempts ← env.integer "AWS_MAX_ATTEMPTS" "3"
  if maxAttempts < 1 then .error (.invalid .maxAttempts) else
    return {
      region? := (env.nonEmpty? "AWS_REGION").or (env.nonEmpty? "AWS_DEFAULT_REGION")
      endpointUrl? := env.nonEmpty? "AWS_ENDPOINT_URL"
      maxAttempts
      connectTimeout := ← env.integer "AWS_CONNECT_TIMEOUT" "10"
      readTimeout := ← env.integer "AWS_READ_TIMEOUT" "30" }

end ProviderSettings

namespace PassSettings

/-- The settings for a pass if nothing is set. -/
def default : PassSettings :=
  { timeout := .ofDecimal false 120 0, logLevel := "INFO",
    annotationPrefix := Annotations.defaultPrefix }

/-- Whether a timeout is refused: zero and less are. -/
def refused (timeout : Binary64) : Bool :=
  timeout.isZero || timeout.number.lt (.finite 0)

/-- The settings for a pass in an environment (`ReconcilerConfig.from_env`). -/
def ofEnvironment (env : Environment) : Except Fault PassSettings := do
  let timeout ← env.number "RECONCILE_TIMEOUT" "120"
  if refused timeout then .error (.invalid .reconcileTimeout) else
    return {
      timeout
      logLevel := Text.upper (env.getD "LOG_LEVEL" "INFO")
      annotationPrefix := env.getD "ANNOTATION_PREFIX" Annotations.defaultPrefix }

end PassSettings

namespace Settings

/-- The settings if nothing is set (`Config.default`). -/
def default : Settings := { provider := .default, pass := .default }

/-- The settings in an environment (`Config.from_env`). -/
def ofEnvironment (env : Environment) : Except Fault Settings := do
  let provider ← ProviderSettings.ofEnvironment env
  return { provider, pass := ← PassSettings.ofEnvironment env }

end Settings

/-- The settings that are kept, with the number of the reading they come from, and how often
    they were read. -/
structure SettingsCache where
  kept? : Option (Settings × Nat)
  readings : Nat

namespace SettingsCache

/-- A cache that keeps nothing yet. -/
def empty : SettingsCache := ⟨none, 0⟩

/-- The settings, which are read if none are kept, with the number of their reading
    (`get_config`). -/
def get (cache : SettingsCache) (env : Environment) :
    Except Fault (Settings × Nat) × SettingsCache :=
  match cache.kept? with
  | some kept => (.ok kept, cache)
  | none =>
    match Settings.ofEnvironment env with
    | .ok settings =>
      let kept := (settings, cache.readings + 1)
      (.ok kept, ⟨some kept, cache.readings + 1⟩)
    | .error fault => (.error fault, cache)

/-- A cache that keeps nothing any more (`reset_config`). -/
def reset (cache : SettingsCache) : SettingsCache := { cache with kept? := none }

theorem get_get (cache : SettingsCache) (env env' : Environment) {kept : Settings × Nat}
    (h : (cache.get env).1 = .ok kept) : ((cache.get env).2.get env').1 = .ok kept := by
  unfold get at h ⊢
  split at h
  · rename_i _ hk
    simp_all
  · split at h <;> simp_all

end SettingsCache

/-- The configuration with which a client of the provider is made. -/
structure ClientOptions where
  region? : Option String
  endpointUrl? : Option String
  retryMode : String
  maxAttempts : Int
  connectTimeout : Int
  readTimeout : Int

/-- The configuration that settings ask for (`make_elbv2_client`). -/
def ProviderSettings.clientOptions (s : ProviderSettings) : ClientOptions :=
  { region? := s.region?, endpointUrl? := s.endpointUrl?, retryMode := "standard",
    maxAttempts := s.maxAttempts, connectTimeout := s.connectTimeout,
    readTimeout := s.readTimeout }

end AlbListener

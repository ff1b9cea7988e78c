import AlbListener.Cloud.Basic
import AlbListener.Listener.Drift
import AlbListener.Request.Build
import AlbListener.Request.Load

/-!
# The reconciler

One pass brings one listener to its desired state: it works the desired state out, creates the
listener or modifies it if it has drifted, and then has its rules reconciled. What was done is
not undone when a later step fails; the next pass goes on from there. A pass that succeeds, or
fails for a reason of the reconciler, publishes one event.

Results:
* `asRuleFailure_rules`: a failure that the rules report themselves is not wrapped again.
-/

namespace AlbListener

/-- What a pass did (`ReconcileOutcome`). -/
structure Result where
  listener : Listener
  type : EventType

/-- A reconciler: the cloud, what reconciles the rules, whether events are published, and the time
    that they bear (`ListenerReconciler`). -/
structure Reconciler (σ : Type) where
  cloud : Cloud σ
  rules : RuleReconciler σ
  announces : Bool
  now : String

namespace Reconciler

variable {σ : Type}

/-- A run whose failures get another reason; cancellation stays what it is. -/
def wrapping {α : Type} (wrap : Failure → Failure) (run : Run σ α) : Run σ α := do
  match ← run.attempt with
  | .ok value => return value
  | .error .cancelled => Run.stop .cancelled
  | .error (.failed failure) => Run.fail (wrap failure)

/-- The failure of a create call (`ListenerCreateError`). -/
def asCreateFailure (cause : Failure) : Failure := .reconcile (.create cause) .null

/-- The failure of a modify call (`ListenerUpdateError`). -/
def asUpdateFailure (listenerArn : Json) (cause : Failure) : Failure :=
  .reconcile (.update listenerArn cause) .null

/-- The failure of the rules of a listener, unless it is one already (`RuleReconciliationError`). -/
def asRuleFailure (listenerArn : Json) (cause : Failure) : Failure :=
  match cause with
  | .reconcile reason stage =>
    if reason.kind = .rules then .reconcile reason stage
    else .reconcile (.rules listenerArn cause) .null
  | other => .reconcile (.rules listenerArn other) .null

/-- Creates a listener (`create_listener`). -/
def createListener (r : Reconciler σ) (loadBalancerArn : Json) (config : ListenerConfig) :
    Run σ Listener := do
  Run.emit (.createListener loadBalancerArn config)
  r.cloud.create loadBalancerArn config

/-- Gives a listener a new state (`modify_listener`). -/
def modifyListener (r : Reconciler σ) (listenerArn : Json) (config : ListenerConfig) :
    Run σ Listener := do
  Run.emit (.modifyListener listenerArn config)
  r.cloud.modify listenerArn config

/-- Has the rules of a listener reconciled. -/
def reconcileRules (r : Reconciler σ) (listenerArn : Json) (request : Request) : Run σ Unit := do
  Run.emit (.reconcileRules listenerArn request.ingress request.annotations request.targetGroups)
  r.rules listenerArn request.ingress request.annotations request.targetGroups

/-- Makes sure that the listener is as it should be (`_create`, `_update_if_drifted`). -/
def applyConfig (r : Reconciler σ) (request : Request) (config : ListenerConfig) :
    Run σ Result := do
  match request.operation with
  | .create =>
    let listener ← wrapping asCreateFailure (r.createListener request.loadBalancerArn config)
    return { listener, type := .created }
  | .update live =>
    let drifted ← Run.read (live.needsUpdate config)
    if drifted then
      let listener ← wrapping (asUpdateFailure live.arn) (r.modifyListener live.arn config)
      return { listener, type := .modified }
    else
      return { listener := live, type := .unchanged }

/-- The steps of a pass, without reports. -/
def steps (r : Reconciler σ) (request : Request) : Run σ Result := do
  let config ← Run.ofExcept request.build
  let result ← r.applyConfig request config
  wrapping (asRuleFailure result.listener.arn) (r.reconcileRules result.listener.arn request)
  return result

/-- The event that a pass publishes (`ListenerEvent.now`). -/
def event (r : Reconciler σ) (request : Request) (type : EventType) (listenerArn : Json)
    (message : String) : Event :=
  { type
    loadBalancerArn := request.loadBalancerArn
    port := request.port.port
    protocol := .str request.port.scheme.name
    listenerArn
    message := .str message
    timestamp := .str r.now }

/-- Publishes an event, if anything is published (`_publish`). -/
def publish (r : Reconciler σ) (e : Event) : Run σ Unit :=
  if r.announces then Run.emit (.publish e) else .pure ()

/-- The record of a pass that failed. -/
def failureRecord (request : Request) (reason : Reason) (failure : Failure) : String :=
  "Listener " ++ request.port.scheme.name ++ ":" ++ request.port.port.display ++ " on "
    ++ request.loadBalancerArn.display ++ " failed (" ++ reason.kind.name ++ "): " ++ failure.text

/-- Reports how a pass ended, and ends that way. -/
def report (r : Reconciler σ) (request : Request) : Except Stop Result → Run σ Result
  | .ok result => do
    Run.log .info .reconciler ("Listener " ++ result.listener.arn.display ++ " reconciled ("
      ++ result.type.word ++ ")")
    r.publish (r.event request result.type result.listener.arn "Listener reconciled")
    return result
  | .error (.failed (.reconcile reason stage)) => do
    let failure := Failure.reconcile reason stage
    Run.log .error .reconciler (failureRecord request reason failure)
    r.publish (r.event request .failed .null failure.text)
    Run.fail failure
  | .error other => Run.stop other

/-- One pass (`reconcile_listener`). -/
def reconcile (r : Reconciler σ) (request : Request) : Run σ Result := do
  r.report request (← (r.steps request).attempt)

/-- One pass over the listener that is live at its start (`converge`). -/
def converge (r : Reconciler σ) (request : Request) : Run σ Result := do
  let live ← r.cloud.describe request.loadBalancerArn request.port.port
  r.reconcile { request with instance? := live }

theorem asRuleFailure_rules (arn : Json) {reason : Reason} (stage : Json)
    (h : reason.kind = .rules) :
    asRuleFailure arn (.reconcile reason stage) = .reconcile reason stage := by
  simp [asRuleFailure, h]

end Reconciler

end AlbListener

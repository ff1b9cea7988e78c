import AlbListener.Listener.Config
import AlbListener.Request.Basic

/-!
# The desired listener of a request

The default action of a listener is the one that an annotation defines, if the default
backend refers to one, and otherwise a forward to the target group of the backend. Without a
default backend it is the built-in answer 404. Certificate and TLS policy belong to HTTPS
only.

A port is written out to see whether it refers to an annotation, which an integer of too many digits
cannot be.

Results:
* `resolveActions_none`: without a backend the built-in answer is the only action.
* `resolveActions_of_action`, `resolveActions_of_targetGroup`: what a backend is resolved to.
-/

namespace AlbListener.Request

/-- The stage in which the desired state is worked out. -/
def buildStage : String := "build"

/-- The backend that stands in for a missing one. -/
def notFoundBackend : Backend :=
  { serviceName := .str Annotations.notFoundService, servicePort := .str Backend.annotationPort }

/-- The target group of a backend. -/
def targetGroup (groups : TargetGroups) (backend : Backend) : Except Failure Json :=
  match backend.checkKey with
  | .error fault => .error (.fault fault)
  | .ok () =>
    match groups.get? backend with
    | some arn =>
      if arn.isTruthy then .ok arn
      else .error (.reconcile (.backend backend.serviceName backend.servicePort) .null)
    | none => .error (.reconcile (.backend backend.serviceName backend.servicePort) .null)

/-- The result of a step that only reads documents. -/
def reading {α : Type} : Except Fault α → Except Failure α := Except.mapError Failure.fault

/-- The default actions of a listener (`resolve_default_actions`). -/
def resolveActions (backend? : Option Backend) (annotations : Annotations)
    (groups : TargetGroups) (limits : Limits := .standard) : Except Failure (List Action) := do
  let backend := backend?.getD notFoundBackend
  reading (Backend.checkPort limits backend.servicePort)
  if Backend.refersToAction backend.servicePort then
    return [← annotations.action backend.serviceName limits]
  else
    return [.forward (← targetGroup groups backend)]

/-- A failure of the reconciler with the stage it belongs to. -/
def inStage (stage : String) : Failure → Failure
  | .reconcile reason _ => .reconcile reason (.str stage)
  | other => other

/-- The certificates of a listener. -/
def certificates (request : Request) : Except Fault (List Certificate) :=
  match request.port.scheme with
  | .http => .ok []
  | .https => do
    match ← request.annotations.certificateArn with
    | none => return []
    | some arn => return [{ arn := .str arn, isDefault := .bool true }]

/-- The TLS policy of a listener. -/
def sslPolicy (request : Request) : Except Fault Json :=
  match request.port.scheme with
  | .http => .ok .null
  | .https => return Json.ofText? (← request.annotations.sslPolicy)

/-- The desired listener of a request (`build_listener_config`). -/
def build (request : Request) (limits : Limits := .standard) :
    Except Failure ListenerConfig := do
  let certificates ← reading request.certificates
  let sslPolicy ← reading request.sslPolicy
  let actions ← (resolveActions request.ingress.backend request.annotations
    request.targetGroups limits).mapError (inStage buildStage)
  reading (ListenerConfig.make request.port.port request.port.scheme actions sslPolicy
    certificates)

theorem resolveActions_none (annotations : Annotations) (groups : TargetGroups)
    (limits : Limits) :
    resolveActions none annotations groups limits = .ok [Annotations.notFoundAction] := by
  rfl

theorem resolveActions_of_action {backend : Backend} {limits : Limits}
    (hp : Backend.checkPort limits backend.servicePort = .ok ())
    (hr : Backend.refersToAction backend.servicePort = true) (annotations : Annotations)
    (groups : TargetGroups) :
    resolveActions (some backend) annotations groups limits =
      (annotations.action backend.serviceName limits).map fun action => [action] := by
  simp only [resolveActions, Option.getD_some, hp, hr, if_true]
  rfl

theorem resolveActions_of_targetGroup {backend : Backend} {limits : Limits}
    (hp : Backend.checkPort limits backend.servicePort = .ok ())
    (hr : Backend.refersToAction backend.servicePort = false) (annotations : Annotations)
    (groups : TargetGroups) :
    resolveActions (some backend) annotations groups limits =
      (targetGroup groups backend).map fun arn => [.forward arn] := by
  simp only [resolveActions, Option.getD_some, hp, hr]
  rfl

end AlbListener.Request

import AlbListener.Effect
import AlbListener.Request.Schema

/-!
# Loading requests

A request is loaded from a document that has the form of one. Target groups are collected by
backend; if a backend comes again, the later target group counts and a warning is recorded.

Results:
* `load_eq_ofDocument`: of a JSON document that passes its check, all is read.
* `operation_eq_create_iff`: a listener is created when there is none.
-/

namespace AlbListener.Request

/-- The warning that a backend has a target group already. -/
def duplicateWarning (backend : Backend) : String :=
  "Duplicate target group for " ++ backend.serviceName.display ++ ":"
    ++ backend.servicePort.display ++ ", keeping the last one"

variable {σ : Type}

/-- The target groups with those of further entries. -/
def collectGroups (groups : TargetGroups) : List Json → Run σ TargetGroups
  | [] => .pure groups
  | entry :: rest => do
    let backend ← Run.read (Backend.ofDocument entry)
    Run.read backend.checkKey
    if (groups.get? backend).isSome then
      Run.log .warning .validation (duplicateWarning backend)
    let arn ← Run.read (entry.member "targetGroupArn")
    collectGroups (groups.put backend arn) rest

/-- The annotations that a value holds. -/
def annotationsOf (keyPrefix : String) (value : Json) : Except Fault Annotations := do
  return { keyPrefix, values := ← (value.orElse (.obj [])).toMembers }

/-- The request that a document of the right form describes (`load_request_document`). -/
def ofDocument (document : Json) (keyPrefix : String) (instance? : Option Listener) :
    Run σ Request := do
  let ingressDocument ← Run.read (document.member "ingress")
  let entries ← Run.read (do (← document.getD "targetGroups" (.arr [])).elements)
  let targetGroups ← collectGroups [] entries
  Run.read do
    let loadBalancerArn ← document.member "loadBalancerArn"
    let ingress ← Ingress.ofDocument ingressDocument
    let annotations ← annotationsOf keyPrefix (← ingressDocument.getD "annotations" .null)
    let port ← document.member "port"
    let port ← ListenerPort.ofJson (← port.member "port") (← port.member "scheme")
    return { loadBalancerArn, ingress, annotations, port, targetGroups, instance? }

/-- The request that a document describes, unless it has not the form of one
    (`load_request_document`). -/
def load {α : Type} [Document α] (document : α) (keyPrefix : String)
    (instance? : Option Listener) : Run σ Request :=
  match Check.report Check.request document with
  | some violations => Run.fail (.fault (.invalid (.request violations)))
  | none => ofDocument (Document.toJson document) keyPrefix instance?

/-- What a pass does to the listener (`ListenerOperation`). -/
inductive Operation
  | create
  | update (live : Listener)

/-- A listener is created if there is none, and otherwise updated if it has drifted
    (`plan_operation`). -/
def operation (request : Request) : Operation :=
  match request.instance? with
  | none => .create
  | some live => .update live

theorem load_eq_ofDocument {document : Json} (keyPrefix : String) (instance? : Option Listener)
    (h : Check.report Check.request document = none) :
    (load document keyPrefix instance? : Run σ Request) =
      ofDocument document keyPrefix instance? := by
  simp [load, h]

theorem operation_eq_create_iff (request : Request) :
    request.operation = .create ↔ request.instance? = none := by
  unfold operation
  split <;> simp_all

end AlbListener.Request

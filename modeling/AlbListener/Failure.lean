import AlbListener.Ingress.Backend
import AlbListener.Json.Reader

/-!
# Failures

`Failure` is what can go wrong in a pass: a document is refused, a call to the provider fails,
or the reconciler itself reports why it cannot go on (`Reason`). A reason that follows from
another failure keeps it as its cause. Cancellation is no failure: it is never reported, and
`Stop` tells the two apart.

Results:
* `Reason.kind_create`, `Reason.kind_update`, `Reason.kind_rules`: the kind of a reason tells
  the stage that failed, whatever the cause.
* `Failure.text_of_stage`: where the stage goes in a report.
* `Failure.isWorded_of_text`: a failure whose message is a text has words.
-/

namespace AlbListener

/-- What is wrong with the annotation that should define an action. -/
inductive AnnotationProblem
  | unset
  | unreadable (e : Json.ReadError)
  | notObject
  | invalid (reason : Invalid)

/-- The wording of a problem with the action of a service. -/
def AnnotationProblem.message (service : String) : AnnotationProblem → String
  | .unset =>
    "backend with `servicePort: " ++ Backend.annotationPort ++ "` was configured with `serviceName: "
      ++ service ++ "` but an action annotation for " ++ service ++ " is not set"
  | .unreadable e =>
    "unable to parse action annotation for " ++ service ++ ": " ++ e.message
  | .notObject => "action annotation for " ++ service ++ " must be a JSON object"
  | .invalid reason => "invalid action annotation for " ++ service ++ ": " ++ reason.message

/-- The kinds of failure that are reported (`ListenerReconcileError.kind`). -/
inductive FailureKind
  | general
  | action
  | backend
  | create
  | update
  | rules
  deriving DecidableEq, Repr

/-- The name of a kind of failure. -/
def FailureKind.name : FailureKind → String
  | .general => "ListenerReconcileFailure"
  | .action => "AnnotationResolutionFailure"
  | .backend => "UnresolvedBackend"
  | .create => "CreateFailed"
  | .update => "UpdateFailed"
  | .rules => "RuleReconciliationFailed"

mutual

/-- What goes wrong in a pass. A reason may name the stage it belongs to, and else has null
    for it. -/
inductive Failure
  | fault (reason : Fault)
  | unreadable (e : Json.ReadError)
  | client (code message operation : String)
  | endpoint (url : String)
  | timeout
  | runtime (message : String)
  | reconcile (reason : Reason) (stage : Json)

/-- Why the reconciler cannot go on. A message that is stated from outside should be a text. -/
inductive Reason
  | action (service : Json) (problem : AnnotationProblem)
  | backend (service port : Json)
  | create (cause : Failure)
  | update (listenerArn : Json) (cause : Failure)
  | rules (listenerArn : Json) (cause : Failure)
  | stated (kind : FailureKind) (message : Json)

end

/-- The kind of a reason. -/
def Reason.kind : Reason → FailureKind
  | .action .. => .action
  | .backend .. => .backend
  | .create _ => .create
  | .update .. => .update
  | .rules .. => .rules
  | .stated kind _ => kind

/-- A message with the stage it belongs to in front, if the stage counts as given (`__str__`). -/
def withStage (stage : Json) (message : String) : String :=
  if stage.isTruthy then "[" ++ stage.display ++ "] " ++ message else message

mutual

/-- The text of a failure in a report. -/
def Failure.text : Failure → String
  | .fault reason => reason.message
  | .unreadable e => e.message
  | .client code message operation =>
    "An error occurred (" ++ code ++ ") when calling the " ++ operation ++ " operation: "
      ++ message
  | .endpoint url => "Could not connect to the endpoint URL: \"" ++ url ++ "\""
  | .timeout => ""
  | .runtime message => message
  | .reconcile reason stage => withStage stage reason.message

/-- The message of a reason. -/
def Reason.message : Reason → String
  | .action service problem => problem.message service.display
  | .backend service port =>
    "unable to find targetGroup for backend " ++ service.display ++ ":" ++ port.display
  | .create cause => "failed to create listener: " ++ cause.text
  | .update arn cause => "failed to modify listener " ++ arn.display ++ ": " ++ cause.text
  | .rules arn cause => "failed to reconcile rules of " ++ arn.display ++ ": " ++ cause.text
  | .stated _ message => message.display

end

/-- The failure to read a text. Where too many digits stand, the integer is refused; where a text is
    nested too deep, the calls that may be open are used up. -/
def Json.ReadError.asFailure (e : Json.ReadError) : Failure :=
  match e.problem with
  | .tooManyDigits limit count => .fault (.invalid (.tooManyDigits limit count))
  | .tooDeep _ => .runtime e.message
  | _ => .unreadable e

/-- Whether a failure has words of its own: a message that is not a text has them only behind
    a stage. -/
def Failure.isWorded : Failure → Bool
  | .reconcile (.stated _ message) stage => stage.isTruthy || message.kind == .str
  | _ => true

/-- Why a pass stops: it was cancelled from outside, or it failed. -/
inductive Stop
  | cancelled
  | failed (failure : Failure)

/-- A refused document as a reason to stop. -/
def Stop.ofFault (fault : Fault) : Stop := .failed (.fault fault)

theorem Failure.isWorded_of_text (kind : FailureKind) (message : String) (stage : Json) :
    (Failure.reconcile (.stated kind (.str message)) stage).isWorded = true := by
  simp [Failure.isWorded, Json.kind]

end AlbListener

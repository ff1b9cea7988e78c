import AlbListener.Json.Access
import AlbListener.Json.Limits

/-!
# Backends and target groups

A backend names a service and one of its ports, by number or by name. `TargetGroups` gives
the target group of each backend. A port that is written as a text of digits is the number it
denotes, and numbers are the same backend port however they are written.

Results:
* `get?_put_self`: the target group stored last for a backend is the one found.
-/

namespace AlbListener

/-- A port of a service (`IngressBackend`). -/
structure Backend where
  serviceName : Json
  servicePort : Json

namespace Backend

/-- The port that a value stands for: a text of digits is a number. -/
def portOf (value : Json) : Except Fault Json :=
  match value with
  | .str s => if Text.allDigits s then do return .int (← value.toInteger) else .ok value
  | other => .ok other

/-- The backend that a document names (`IngressBackend.from_dict`). -/
def ofDocument (data : Json) : Except Fault Backend := do
  let port ← portOf (← data.member "servicePort")
  return { serviceName := ← data.member "serviceName", servicePort := port }

/-- Whether two backends are the same. -/
def same (a b : Backend) : Bool :=
  a.serviceName.same b.serviceName && a.servicePort.same b.servicePort

/-- A backend can be looked up only if its name and port are no arrays or objects. -/
def checkKey (b : Backend) : Except Fault Unit :=
  if b.serviceName.isCompound then .error (.mismatch (.hash b.serviceName.kind))
  else if b.servicePort.isCompound then .error (.mismatch (.hash b.servicePort.kind))
  else .ok ()

/-- The port that refers to an action defined by an annotation. -/
def annotationPort : String := "use-annotation"

/-- An integer port is written out only if it does not have too many digits. -/
def checkPort (limits : Limits) : Json → Except Fault Unit
  | .int n =>
    match limits.exceededBy? n with
    | some limit => .error (.invalid (.longInteger limit))
    | none => .ok ()
  | _ => .ok ()

/-- Whether a port refers to an action defined by an annotation (`uses_annotation`). -/
def refersToAction (port : Json) : Bool := port.display == annotationPort

end Backend

/-- The target groups of backends, in the order in which the backends first appeared. -/
abbrev TargetGroups := List (Backend × Json)

namespace TargetGroups

/-- The target group stored for a backend. -/
def get? : TargetGroups → Backend → Option Json
  | [], _ => none
  | (key, arn) :: rest, backend => if key.same backend then some arn else get? rest backend

/-- The target groups with one stored for a backend. -/
def put : TargetGroups → Backend → Json → TargetGroups
  | [], backend, arn => [(backend, arn)]
  | (key, old) :: rest, backend, arn =>
    if key.same backend then (key, arn) :: rest else (key, old) :: put rest backend arn

theorem get?_put_self (groups : TargetGroups) {backend : Backend} (arn : Json)
    (h : backend.same backend = true) : get? (put groups backend arn) backend = some arn := by
  induction groups with
  | nil => simp [put, get?, h]
  | cons entry rest ih => by_cases hk : entry.1.same backend = true <;> simp [put, get?, hk, ih]

end TargetGroups

end AlbListener

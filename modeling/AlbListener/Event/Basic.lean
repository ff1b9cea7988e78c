import AlbListener.Fault
import AlbListener.Json.Printer

/-!
# Events

Each pass publishes one event that tells what it did to the listener. An event is written as
one line of JSON.

Results:
* `ofJson_name`: a type of event is read back from its name.
-/

namespace AlbListener

/-- What a pass did. -/
inductive EventType
  | created
  | modified
  | unchanged
  | failed
  deriving DecidableEq, Repr

namespace EventType

/-- The name of a type of event. -/
def name : EventType → String
  | .created => "CREATED"
  | .modified => "MODIFIED"
  | .unchanged => "UNCHANGED"
  | .failed => "FAILED"

/-- The word for what a pass did. -/
def word : EventType → String
  | .created => "created"
  | .modified => "modified"
  | .unchanged => "unchanged"
  | .failed => "failed"

/-- The type of event of a name. -/
def ofName? (s : String) : Option EventType :=
  if s = "CREATED" then some .created
  else if s = "MODIFIED" then some .modified
  else if s = "UNCHANGED" then some .unchanged
  else if s = "FAILED" then some .failed
  else none

/-- The type of event that a value names. -/
def ofJson (value : Json) : Except Fault EventType :=
  match value with
  | .str s =>
    match ofName? s with
    | some type => .ok type
    | none => .error (.invalid (.eventType value))
  | _ => .error (.invalid (.eventType value))

theorem ofName?_name (t : EventType) : ofName? t.name = some t := by cases t <;> rfl

theorem ofJson_name (t : EventType) : ofJson (.str t.name) = .ok t := by
  simp [ofJson, ofName?_name]

end EventType

/-- An event about a listener (`ListenerEvent`). -/
structure Event where
  type : EventType
  loadBalancerArn : Json
  port : Json
  protocol : Json
  listenerArn : Json
  message : Json
  timestamp : Json

namespace Event

/-- The members of an event as an object. -/
def members (e : Event) : List (String × Json) := [
  ("event_type", .str e.type.name),
  ("load_balancer_arn", e.loadBalancerArn),
  ("port", e.port),
  ("protocol", e.protocol),
  ("listener_arn", e.listenerArn),
  ("message", e.message),
  ("timestamp", e.timestamp)]

/-- An event as a line of JSON (`to_json`). -/
def toLine (e : Event) : String := (Json.obj e.members).render

end Event

end AlbListener

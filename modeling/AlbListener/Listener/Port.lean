import AlbListener.Json.Access

/-!
# Listener ports

A listener is bound to a port of its load balancer and speaks HTTP or HTTPS on it. A port is a
number from 1 to 65535; it need not be written as an integer.

Results:
* `ofJson_name`: a protocol is read back from its name.
* `portInRange_int`: which integers are ports.
-/

namespace AlbListener

/-- What a listener speaks (`ListenerProtocol`). -/
inductive Protocol
  | http
  | https
  deriving DecidableEq, Repr

namespace Protocol

/-- The name of a protocol. -/
def name : Protocol → String
  | .http => "HTTP"
  | .https => "HTTPS"

/-- The protocol of a name. -/
def ofName? (s : String) : Option Protocol :=
  if s = "HTTP" then some .http else if s = "HTTPS" then some .https else none

/-- The protocol that a value names. -/
def ofJson (value : Json) : Except Fault Protocol :=
  match value with
  | .str s =>
    match ofName? s with
    | some protocol => .ok protocol
    | none => .error (.invalid (.protocol value))
  | _ => .error (.invalid (.protocol value))

theorem ofName?_name (p : Protocol) : ofName? p.name = some p := by cases p <;> rfl

theorem ofJson_name (p : Protocol) : ofJson (.str p.name) = .ok p := by
  simp [ofJson, ofName?_name]

end Protocol

/-- Whether a number lies between 1 and 65535. -/
def Number.inPortRange (x : Number) : Bool :=
  (x == .ofInt 1 || Number.lt (.ofInt 1) x) && (x == .ofInt 65535 || Number.lt x (.ofInt 65535))

/-- Whether a value is a port. -/
def portInRange (port : Json) : Bool :=
  match port.number? with
  | some x => x.inPortRange
  | none => false

/-- The port of a listener and what it speaks there. -/
structure ListenerPort where
  port : Json
  scheme : Protocol
  port_inRange : portInRange port = true

/-- The port and the protocol that two values stand for. -/
def ListenerPort.ofJson (port scheme : Json) : Except Fault ListenerPort :=
  match port.number? with
  | none => .error (.mismatch (.compare "<=" .int port.kind))
  | some _ =>
    if h : portInRange port = true then do
      return ⟨port, ← Protocol.ofJson scheme, h⟩
    else .error (.invalid (.portRange port))

theorem portInRange_int {n : Int} : portInRange (.int n) = true ↔ 1 ≤ n ∧ n ≤ 65535 := by
  simp only [portInRange, Json.number?, Number.inPortRange, Bool.and_eq_true, Bool.or_eq_true,
    beq_iff_eq, Number.ofInt_inj, Number.lt_ofInt_iff]
  omega

end AlbListener

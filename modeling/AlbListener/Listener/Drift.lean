import AlbListener.Listener.Basic
import AlbListener.Listener.Config

/-!
# Drift

A live listener has drifted if it is not as it should be: on its port, its protocol, its
certificates, its TLS policy or its default actions. The default actions are compared in
order, and the certificates as a set.
-/

namespace AlbListener

/-- A field on which a live listener is not as it should be, with both values (`FieldDrift`). -/
inductive Drift
  | port (observed : Int) (desired : Json)
  | protocol (observed desired : Protocol)
  | certificates (observed desired : List Certificate)
  | sslPolicy (observed desired : Json)
  | defaultActions (observed desired : List Action)

namespace Drift

/-- The name of the field. -/
def field : Drift → String
  | .port .. => "port"
  | .protocol .. => "protocol"
  | .certificates .. => "certificates"
  | .sslPolicy .. => "ssl_policy"
  | .defaultActions .. => "default_actions"

end Drift

namespace Listener

/-- A drift, unless both sides are the same. -/
def driftUnless (same : Bool) (drift : Drift) : List Drift := if same then [] else [drift]

/-- The fields on which a listener is not as a config says (`diff_listener`). -/
def drifts (observed : Listener) (target : ListenerConfig) : Except Fault (List Drift) := do
  observed.certificates.forM Certificate.checkMember
  target.certificates.forM Certificate.checkMember
  return driftUnless ((Json.int observed.port).equals target.port)
      (.port observed.port target.port)
    ++ driftUnless (observed.protocol == target.protocol)
      (.protocol observed.protocol target.protocol)
    ++ driftUnless (Certificate.sameSet observed.certificates target.certificates)
      (.certificates observed.certificates target.certificates)
    ++ driftUnless (observed.sslPolicy.equals target.sslPolicy)
      (.sslPolicy observed.sslPolicy target.sslPolicy)
    ++ driftUnless (Action.sameAll observed.defaultActions target.defaultActions)
      (.defaultActions observed.defaultActions target.defaultActions)

/-- Whether a listener must be modified to be as a config says (`needs_update`). -/
def needsUpdate (observed : Listener) (target : ListenerConfig) : Except Fault Bool := do
  return !(← observed.drifts target).isEmpty

end Listener

end AlbListener

import AlbListener.Action.Document
import AlbListener.Listener.Certificate
import AlbListener.Listener.Port

/-!
# Desired listeners

`ListenerConfig` is the state that a listener should have. It has a default action at least,
and at most one of its certificates is the default one.

Results:
* `make_eq_ok`: a config is made of parts that satisfy both conditions.
-/

namespace AlbListener

/-- The state that a listener should have. -/
structure ListenerConfig where
  port : Json
  protocol : Protocol
  defaultActions : List Action
  sslPolicy : Json
  certificates : List Certificate
  defaultActions_ne_nil : defaultActions ≠ []
  oneDefault : (certificates.filter (·.isDefault.isTruthy)).length ≤ 1

namespace ListenerConfig

/-- The config of the given parts (`__post_init__`). -/
def make (port : Json) (protocol : Protocol) (actions : List Action) (sslPolicy : Json)
    (certificates : List Certificate) : Except Fault ListenerConfig :=
  if actions_ne : actions ≠ [] then
    if oneDefault : (certificates.filter (·.isDefault.isTruthy)).length ≤ 1 then
      .ok ⟨port, protocol, actions, sslPolicy, certificates, actions_ne, oneDefault⟩
    else .error (.invalid .manyDefaultCertificates)
  else .error (.invalid .noDefaultAction)

/-- What the calls that create and modify a listener pass (`ListenerConfig.to_api`). -/
def toApi (config : ListenerConfig) : List (String × Json) :=
  [("Port", config.port), ("Protocol", .str config.protocol.name),
    ("DefaultActions", .arr (config.defaultActions.map Action.toApi))]
  ++ (if config.certificates.isEmpty then []
      else [("Certificates", .arr (config.certificates.map Certificate.toApi))])
  ++ Action.optional "SslPolicy" config.sslPolicy

theorem make_eq_ok {port : Json} {protocol : Protocol} {actions : List Action}
    {sslPolicy : Json} {certificates : List Certificate} (ha : actions ≠ [])
    (hc : (certificates.filter (·.isDefault.isTruthy)).length ≤ 1) :
    make port protocol actions sslPolicy certificates =
      .ok ⟨port, protocol, actions, sslPolicy, certificates, ha, hc⟩ := by
  simp [make, ha, hc]

end ListenerConfig

end AlbListener

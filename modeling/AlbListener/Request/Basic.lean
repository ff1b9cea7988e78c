import AlbListener.Ingress.Annotations
import AlbListener.Ingress.Basic
import AlbListener.Listener.Basic

/-!
# Requests

Everything that one pass needs to bring a listener to its desired state.
-/

namespace AlbListener

/-- What a listener should be, and the live listener if there is one (`ReconcileRequest`). -/
structure Request where
  loadBalancerArn : Json
  ingress : Ingress
  annotations : Annotations
  port : ListenerPort
  targetGroups : TargetGroups
  instance? : Option Listener

end AlbListener

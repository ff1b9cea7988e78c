import AlbListener.Effect

/-!
# Clouds

A cloud creates, modifies and describes listeners. A reconciler reaches its listeners only
through these three; each of them may fail or be cancelled.
-/

namespace AlbListener

/-- What a reconciler asks of the cloud: a new listener on a load balancer, a new state for a
    listener, and the listener on a port of a load balancer (`ListenerAPI`). -/
structure Cloud (σ : Type) where
  create (loadBalancerArn : Json) (config : ListenerConfig) : Run σ Listener
  modify (listenerArn : Json) (config : ListenerConfig) : Run σ Listener
  describe (loadBalancerArn port : Json) : Run σ (Option Listener)

/-- A cloud that answers one sort of call too late, if any. The call is made all the same, in a
    thread of its own. -/
def Cloud.late {σ : Type} (cloud : Cloud σ) : Option Call → Cloud σ
  | none => cloud
  | some .create => { cloud with create := fun arn config => (cloud.create arn config).cutOff }
  | some .modify => { cloud with modify := fun arn config => (cloud.modify arn config).cutOff }
  | some .describe => { cloud with describe := fun arn port => (cloud.describe arn port).cutOff }

/-- What brings the rules of a listener in line with an ingress. -/
abbrev RuleReconciler (σ : Type) :=
  (listenerArn : Json) → Ingress → Annotations → TargetGroups → Run σ Unit

/-- Rules that are managed elsewhere are left as they are (`UnmanagedRuleReconciler`). -/
def RuleReconciler.unmanaged {σ : Type} : RuleReconciler σ :=
  fun listenerArn ingress _ _ =>
    Run.log .info .reconciler
      ("Skipping rule reconciliation for " ++ listenerArn.display ++ ": "
        ++ Text.natText ingress.rules.length ++ " rule(s) of " ++ ingress.namespaceName.display
        ++ "/" ++ ingress.name.display ++ " are not managed here")

end AlbListener

import AlbListener.Proofs.Listener.Drift
import AlbListener.Proofs.Request.Typed
import AlbListener.Request.Build

/-!
# What a request asks for

The config of a request has the port and the protocol of the request, certificates and a TLS
policy that are given by texts, and an action that its document is read back to.

Results:
* `expressed_of_resolveActions`: every action that is asked for can be expressed.
* `desires_of_build`: a config is built only from parts that the request asks for.
* `build_with_instance`: the live listener has no part in it.
-/

namespace AlbListener

variable {limits : Limits}

theorem TargetGroups.mem_of_get? {groups : TargetGroups} {backend : Backend} {arn : Json}
    (h : groups.get? backend = some arn) : ∃ entry ∈ groups, entry.2 = arn := by
  induction groups with
  | nil => cases h
  | cons entry rest ih =>
    rw [get?] at h
    split_ifs at h with hk
    · exact ⟨entry, List.mem_cons_self, Option.some.inj h⟩
    · obtain ⟨found, hm, harn⟩ := ih h
      exact ⟨found, List.mem_cons_of_mem _ hm, harn⟩

namespace Annotations

theorem managed_notFoundAction : notFoundAction.Managed :=
  .fixedResponse _ (Json.distinct_str _) Json.distinct_null

theorem managed_of_parseAction {service : Json} {text : String} {a : Action}
    (h : parseAction service text limits = .ok a) : a.Managed := by
  unfold parseAction at h
  split at h
  · cases h
  · rename_i members hread
    split at h
    · rename_i action haction
      obtain ⟨rfl, -⟩ := checkDepth_eq_ok_iff.mp h
      exact Action.managed_of_ofDocument (Json.readWithin_distinct hread) haction
    · cases h
    · cases h
  · cases h

/-- The action of a service can be expressed. -/
theorem managed_of_action {annotations : Annotations} {service : Json} {a : Action}
    (h : annotations.action service limits = .ok a) : a.Managed := by
  unfold action at h
  split_ifs at h with hservice
  · cases h
    exact managed_notFoundAction
  · split at h
    · cases h
    · cases h
    · exact managed_of_parseAction h

end Annotations

namespace Request

/-! ## Actions -/

theorem managed_of_targetGroup {groups : TargetGroups} {backend : Backend} {arn : Json}
    (hd : groups.Distinct) (h : targetGroup groups backend = .ok arn) :
    (Action.forward arn).Managed := by
  unfold targetGroup at h
  split at h
  · cases h
  · split at h
    · rename_i found hfound
      split_ifs at h with htruthy
      cases h
      obtain ⟨entry, hm, rfl⟩ := TargetGroups.mem_of_get? hfound
      exact .forward htruthy (hd entry hm)
    · cases h

/-- The default action is defined by an annotation or forwards to a target group. -/
theorem of_resolveActions {backend? : Option Backend} {annotations : Annotations}
    {groups : TargetGroups} {actions : List Action}
    (h : resolveActions backend? annotations groups limits = .ok actions) :
    ∃ a, actions = [a] ∧ ((∃ service, annotations.action service limits = .ok a) ∨
      ∃ backend arn, targetGroup groups backend = .ok arn ∧ a = .forward arn) := by
  obtain ⟨⟨⟩, -, h⟩ := bind_eq_ok_iff.mp h
  split_ifs at h with hannotation
  · obtain ⟨a, ha, h⟩ := bind_eq_ok_iff.mp h
    cases h
    exact ⟨a, rfl, .inl ⟨_, ha⟩⟩
  · obtain ⟨arn, harn, h⟩ := bind_eq_ok_iff.mp h
    cases h
    exact ⟨_, rfl, .inr ⟨_, arn, harn, rfl⟩⟩

theorem managed_of_resolveActions {backend? : Option Backend} {annotations : Annotations}
    {groups : TargetGroups} {actions : List Action} (hd : groups.Distinct)
    (h : resolveActions backend? annotations groups limits = .ok actions) :
    ∀ a ∈ actions, a.Managed := by
  obtain ⟨a, rfl, ⟨service, ha⟩ | ⟨backend, arn, harn, rfl⟩⟩ := of_resolveActions h
  · exact List.forall_mem_singleton.mpr (Annotations.managed_of_action ha)
  · exact List.forall_mem_singleton.mpr (managed_of_targetGroup hd harn)

/-- The default action can be expressed, whatever the target groups are. -/
theorem expressed_of_resolveActions {backend? : Option Backend} {annotations : Annotations}
    {groups : TargetGroups} {actions : List Action}
    (h : resolveActions backend? annotations groups limits = .ok actions) :
    ∀ a ∈ actions, a.isUnmanaged = false := by
  obtain ⟨a, rfl, ⟨service, ha⟩ | ⟨backend, arn, -, rfl⟩⟩ := of_resolveActions h
  · exact List.forall_mem_singleton.mpr (Annotations.managed_of_action ha).isUnmanaged
  · exact List.forall_mem_singleton.mpr rfl

/-! ## Certificates and policy -/

theorem of_certificates {request : Request} {certificates : List Certificate}
    (h : request.certificates = .ok certificates) :
    ∀ c ∈ certificates, ∃ arn, c = ⟨.str arn, .bool true⟩ := by
  unfold Request.certificates at h
  split at h
  · cases h
    simp
  · obtain ⟨arn?, -, h⟩ := bind_eq_ok_iff.mp h
    cases arn? with
    | none => cases h; simp
    | some arn => cases h; simp

theorem of_sslPolicy {request : Request} {policy : Json} (h : request.sslPolicy = .ok policy) :
    policy = .null ∨ ∃ s, policy = .str s := by
  unfold Request.sslPolicy at h
  split at h
  · cases h
    exact .inl rfl
  · obtain ⟨policy?, -, h⟩ := bind_eq_ok_iff.mp h
    cases policy? with
    | none => cases h; exact .inl rfl
    | some s => cases h; exact .inr ⟨s, rfl⟩

/-! ## The config -/

/-- A config is what a request asks for. -/
structure Desires (request : Request) (config : ListenerConfig) (limits : Limits := .standard) :
    Prop where
  port : config.port = request.port.port
  protocol : config.protocol = request.port.scheme
  certificates : request.certificates = .ok config.certificates
  sslPolicy : request.sslPolicy = .ok config.sslPolicy
  actions : resolveActions request.ingress.backend request.annotations request.targetGroups limits =
    .ok config.defaultActions

theorem reading_eq_ok_iff {α : Type} {step : Except Fault α} {value : α} :
    reading step = .ok value ↔ step = .ok value := mapError_eq_ok_iff

theorem desires_of_build {request : Request} {config : ListenerConfig}
    (h : request.build limits = .ok config) : request.Desires config limits := by
  obtain ⟨certificates, hcertificates, h⟩ := bind_eq_ok_iff.mp h
  obtain ⟨policy, hpolicy, h⟩ := bind_eq_ok_iff.mp h
  obtain ⟨actions, hactions, h⟩ := bind_eq_ok_iff.mp h
  rw [reading_eq_ok_iff] at hcertificates hpolicy h
  rw [mapError_eq_ok_iff] at hactions
  unfold ListenerConfig.make at h
  split_ifs at h
  cases h
  exact ⟨rfl, rfl, hcertificates, hpolicy, hactions⟩

namespace Desires

variable {request : Request} {config : ListenerConfig}

theorem managed (h : request.Desires config limits) (hd : request.targetGroups.Distinct) :
    ∀ a ∈ config.defaultActions, a.Managed := managed_of_resolveActions hd h.actions

theorem expressed (h : request.Desires config limits) :
    ∀ a ∈ config.defaultActions, a.isUnmanaged = false := expressed_of_resolveActions h.actions

theorem policy (h : request.Desires config limits) :
    config.sslPolicy = .null ∨ ∃ policy, config.sslPolicy = .str policy := of_sslPolicy h.sslPolicy

theorem plain (h : request.Desires config limits) : Certificate.AllPlain config.certificates := by
  intro c hc
  obtain ⟨arn, rfl⟩ := of_certificates h.certificates c hc
  exact ⟨rfl, rfl⟩

end Desires

/-- What is asked for does not depend on what there is. -/
theorem build_with_instance (request : Request) (live? : Option Listener) :
    ({ request with instance? := live? } : Request).build = request.build := rfl

/-! ## A request without a backend -/

/-- The request for an HTTP listener that has nowhere to forward to. -/
def bare : Request where
  loadBalancerArn := .str "lb"
  ingress := { name := .str "web", namespaceName := .str "default", backend := none, rules := [] }
  annotations := { keyPrefix := Annotations.defaultPrefix, values := [] }
  port := ⟨.int 80, .http, portInRange_int.mpr (by decide)⟩
  targetGroups := []
  instance? := none

/-- The config of that request. -/
def bareConfig : ListenerConfig where
  port := .int 80
  protocol := .http
  defaultActions := [Annotations.notFoundAction]
  sslPolicy := .null
  certificates := []
  defaultActions_ne_nil := List.cons_ne_nil _ _
  oneDefault := Nat.zero_le _

theorem build_bare : bare.build = .ok bareConfig := rfl

theorem typed_bare : bare.Typed where
  loadBalancerArn := ⟨_, rfl⟩
  port := ⟨80, Json.isInteger_int 80⟩
  annotations := fun entry hm => by cases hm
  backend := fun backend h => by cases h
  targetGroups := fun entry hm => by cases hm

end Request

end AlbListener

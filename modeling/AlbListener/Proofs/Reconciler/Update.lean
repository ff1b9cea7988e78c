import AlbListener.Proofs.Cloud.Client
import AlbListener.Proofs.Reconciler.Calls

/-!
# A second pass after an update

A provider stores what a modify call passes over what it has. A member that the call leaves
out therefore stays, and a listener that should lose its certificates or its TLS policy never
does: it is found to have drifted by every later pass. `Listener.Settles` says when this does
not happen.

Results:
* `listener_of_first_pass`: what a pass that succeeds returns.
* `update_converges_iff`: a second pass leaves the listener as it is exactly if it settles.
-/

namespace AlbListener

open Fleet (hasMember merge answerWith)

/-- A listener becomes what a config asks for by storing the config: the port is a whole
    number, and what the config leaves out the listener does not have. -/
def Listener.Settles (live : Listener) (config : ListenerConfig) : Prop :=
  config.port.IsWhole ∧ (config.certificates = [] → live.certificates = []) ∧
    (config.sslPolicy = .null → live.sslPolicy = .null)

theorem Listener.settles_of_drifts {live : Listener} {config : ListenerConfig}
    (h : live.drifts config = .ok []) : live.Settles config := by
  obtain ⟨-, hport, -, hcertificates, hpolicy, -⟩ := drifts_eq_nil_iff.mp h
  refine ⟨⟨_, Json.equals_int_iff.mp hport⟩, fun hc => ?_, fun hp => ?_⟩
  · rw [hc] at hcertificates
    exact Certificate.sameSet_nil_iff.mp hcertificates
  · rw [hp] at hpolicy
    exact Json.equals_null_iff.mp hpolicy

namespace Reconciler

variable {σ : Type} {client : Client σ} {Valid : σ → Prop} {stored : σ → List Json}
variable {r : Reconciler σ} {request : Request} {config : ListenerConfig}
variable {description : Json} {live : Listener} {s s' : σ} {first : Result}

/-- What the cloud answers when a config was stored over a description. -/
theorem listener_of_modify (hm : client.Merges Valid stored) (hs : Valid s)
    (ha : ∀ a ∈ config.defaultActions, a.Managed)
    (hlive : Listener.ofDocument description = .ok live)
    (hstored : (stored s).find? (hasMember "ListenerArn" live.arn) = some description)
    {modified : Listener}
    (h : (client.cloud.modify live.arn config).ending s = (.ok modified, s')) :
    config.port.toInteger = .ok modified.port ∧
      modified = live.withConfig config modified.port := by
  rw [Client.ending_modify] at h
  dsimp only at h
  rcases hcall : (client.modify (("ListenerArn", live.arn) :: config.toApi)).ending s
    with ⟨reason | answer, s''⟩
  · rw [hcall] at h
    cases h
  · obtain ⟨found, hfound, rfl⟩ := hm hs hcall
    obtain ⟨listeners, hmodified⟩ :=
      Fleet.modifyFirst_of_find? (("ListenerArn", live.arn) :: config.toApi) hstored
    have hfound : found = _ := Option.some.inj (hfound.symm.trans hmodified)
    obtain ⟨members, rfl⟩ : ∃ members, description = .obj members := by
      have := List.find?_some hstored
      cases description with
      | obj members => exact ⟨members, rfl⟩
      | _ => cases this
    rw [hcall, hfound] at h
    have hread := congrArg Prod.fst h
    dsimp only [Except.bind] at hread
    rw [Client.listenerOf_answerWith, mapError_eq_ok_iff] at hread
    exact Listener.eq_withConfig_of_stored (Listener.ofDocument_eq_ok_iff.mp hlive) ha hread

/-- A pass that succeeds returns the live listener, if it has not drifted, and otherwise what
    became of it. -/
theorem listener_of_first_pass (hr : r.cloud = client.cloud) (hm : client.Merges Valid stored)
    (hs : Valid s) (hb : request.build = .ok config)
    (ha : ∀ a ∈ config.defaultActions, a.Managed)
    (hplain : Certificate.AllPlain live.certificates)
    (hlive : Listener.ofDocument description = .ok live)
    (hi : request.instance? = some live)
    (hstored : (stored s).find? (hasMember "ListenerArn" live.arn) = some description)
    (hfirst : (r.reconcile request).ending s = (.ok first, s')) :
    (live.drifts config = .ok [] ∧ first.listener = live) ∨
    ∃ port, config.port.toInteger = .ok port ∧ first.listener = live.withConfig config port := by
  obtain ⟨s'', happly⟩ := ending_applyConfig_of_reconcile r hb hfirst
  obtain ⟨drifts, hd⟩ := Listener.exists_drifts hplain (Request.desires_of_build hb).plain
  have hneeds := needsUpdate_eq_ok_of_drifts hd
  cases drifts with
  | nil =>
    rw [ending_applyConfig_keep r s hi hneeds] at happly
    cases happly
    exact .inl ⟨hd, rfl⟩
  | cons drift rest =>
    rw [ending_applyConfig_modify r s hi hneeds, hr] at happly
    rcases hend : (client.cloud.modify live.arn config).ending s with ⟨reason | modified, s₁⟩
    · rw [hend] at happly
      cases happly
    · rw [hend] at happly
      cases happly
      exact .inr ⟨_, listener_of_modify hm hs ha hlive hstored hend⟩

/-- What a pass that succeeds returns has not drifted exactly if the listener settles. -/
theorem drifts_after_first_pass (hr : r.cloud = client.cloud) (hm : client.Merges Valid stored)
    (hs : Valid s) (hg : request.targetGroups.Distinct) (hb : request.build = .ok config)
    (hplain : Certificate.AllPlain live.certificates)
    (hlive : Listener.ofDocument description = .ok live)
    (hi : request.instance? = some live)
    (hstored : (stored s).find? (hasMember "ListenerArn" live.arn) = some description)
    (hfirst : (r.reconcile request).ending s = (.ok first, s')) :
    ∃ drifts, first.listener.drifts config = .ok drifts ∧ (drifts = [] ↔ live.Settles config) := by
  have hdesires := Request.desires_of_build hb
  have ha := hdesires.managed hg
  obtain ⟨hd, hsame⟩ | ⟨port, hport, hsame⟩ :=
    listener_of_first_pass hr hm hs hb ha hplain hlive hi hstored hfirst
  · rw [hsame]
    exact ⟨[], hd, iff_of_true rfl (Listener.settles_of_drifts hd)⟩
  · rw [hsame]
    obtain ⟨drifts, hd⟩ := Listener.exists_drifts
      (Listener.plain_withConfig port hdesires.plain hplain) hdesires.plain
    have hwhole : config.port.IsInteger port ↔ config.port.IsWhole := by
      refine ⟨fun h => ⟨port, h⟩, fun ⟨n, hn⟩ => ?_⟩
      rw [Json.toInteger_of_isInteger hn] at hport
      cases hport
      exact hn
    refine ⟨drifts, hd, ?_⟩
    have hiff := Listener.drifts_withConfig_iff port ha hdesires.policy hdesires.plain hplain
    rw [hd, Except.ok.injEq, hwhole] at hiff
    exact hiff

/-- After a pass that succeeded, a second pass over the listener that it returned calls nothing
    but the rules and leaves the listener as it is, if the live listener settles; otherwise it
    modifies the listener again. -/
theorem update_converges_iff (hr : r.cloud = client.cloud) (hm : client.Merges Valid stored)
    (hs : Valid s) (hg : request.targetGroups.Distinct) (hb : request.build = .ok config)
    (hplain : Certificate.AllPlain live.certificates)
    (hlive : Listener.ofDocument description = .ok live)
    (hi : request.instance? = some live)
    (hstored : (stored s).find? (hasMember "ListenerArn" live.arn) = some description)
    (hfirst : (r.reconcile request).ending s = (.ok first, s')) :
    let again := { request with instance? := some first.listener }
    (live.Settles config →
      r.calls again s' = [rulesCall request first.listener.arn] ∧
      (r.reconcile again).ending s' =
        let rules := (r.rules first.listener.arn request.ingress request.annotations
          request.targetGroups).ending s'
        ((rules.1.mapError (Stop.wrapped (asRuleFailure first.listener.arn))).map
          fun _ => ⟨first.listener, .unchanged⟩, rules.2)) ∧
    (¬live.Settles config →
      ∃ rest, r.calls again s' = .modify first.listener.arn config :: rest) := by
  intro again
  obtain ⟨drifts, hd, hiff⟩ :=
    drifts_after_first_pass hr hm hs hg hb hplain hlive hi hstored hfirst
  have hneeds := needsUpdate_eq_ok_of_drifts hd
  have hb' : again.build = .ok config := (request.build_with_instance _).trans hb
  have hi' : again.instance? = some first.listener := rfl
  rw [calls_eq_passCalls]
  refine ⟨fun hsettles => ?_, fun hsettles => ?_⟩
  · rw [hiff.mpr hsettles] at hneeds
    exact ⟨passCalls_keep r s' hb' hi' hneeds, ending_reconcile_keep r s' hb' hi' hneeds⟩
  · rw [List.isEmpty_eq_false_iff.mpr fun hnil => hsettles (hiff.mp hnil)] at hneeds
    exact ⟨_, passCalls_modify r s' hb' hi' hneeds⟩

/-! ## Over a provider in memory -/

/-- The description of a listener that forwards, with further members. -/
def forwarding (protocol : Protocol) (members : List (String × Json)) : Json :=
  .obj ([("ListenerArn", .str "arn"), ("LoadBalancerArn", .str "lb"), ("Port", .int 80),
    ("Protocol", .str protocol.name),
    ("DefaultActions", .arr [(Action.forward (.str "group")).toApi])] ++ members)

/-- A listener that forwards must be modified if nothing is left to forward to. -/
theorem needsUpdate_of_forward {arn : Json} (hplain : Certificate.AllPlain live.certificates)
    (hforward : live.defaultActions = [.forward arn]) :
    live.needsUpdate Request.bareConfig = .ok true := by
  obtain ⟨drifts, hd⟩ :=
    Listener.exists_drifts hplain (Request.desires_of_build Request.build_bare).plain
  rw [needsUpdate_eq_ok_of_drifts hd, List.isEmpty_eq_false_iff.mpr]
  · rfl
  · rintro rfl
    have hactions := (Listener.drifts_eq_nil_iff.mp hd).2.2.2.2.2
    rw [hforward] at hactions
    cases hactions

/-- A listener that forwards settles if it speaks HTTP. -/
theorem update_converges_http :
    let description := forwarding .http []
    let live := { Listener.created (.str "arn") (.str "lb") Request.bareConfig 80 with
      defaultActions := [.forward (.str "group")] }
    let request := { Request.bare with instance? := some live }
    let modified := live.withConfig Request.bareConfig 80
    let again := { request with instance? := some modified }
    Listener.ofDocument description = .ok live ∧ live.Settles Request.bareConfig ∧
    ∃ fleet, (inMemory.reconcile request).ending (Fleet.ofListeners [description] 0) =
      (.ok ⟨modified, .modified⟩, fleet) ∧
      inMemory.calls again fleet = [rulesCall request (.str "arn")] := by
  intro description live request modified again
  have hplain : Certificate.AllPlain live.certificates := fun c hc => by cases hc
  have hsettles : live.Settles Request.bareConfig :=
    ⟨⟨80, Json.isInteger_int 80⟩, fun _ => rfl, fun _ => rfl⟩
  have hfirst : (inMemory.reconcile request).ending (Fleet.ofListeners [description] 0) = _ :=
    ending_reconcile_modify inMemory Request.build_bare rfl
      (needsUpdate_of_forward hplain rfl) rfl
  have hlive : Listener.ofDocument description = .ok live := rfl
  have hstored : (Fleet.ofListeners [description] 0).listeners.find?
    (hasMember "ListenerArn" live.arn) = some description := rfl
  have hgroups : request.targetGroups.Distinct := fun entry hm => by cases hm
  have hagain := update_converges_iff rfl Fleet.merges_client ⟨rfl, rfl⟩ hgroups
    Request.build_bare hplain hlive rfl hstored hfirst
  exact ⟨hlive, hsettles, _, hfirst, (hagain.1 hsettles).1⟩

/-- A listener that has a certificate and a policy is modified again and again if it should
    speak HTTP. -/
theorem update_repeats_https :
    let description := forwarding .https [
      ("Certificates", .arr [.obj [("CertificateArn", .str "certificate")]]),
      ("SslPolicy", .str "policy")]
    let live := { Listener.created (.str "arn") (.str "lb") Request.bareConfig 80 with
      protocol := .https
      defaultActions := [.forward (.str "group")]
      certificates := [⟨.str "certificate", .bool true⟩]
      sslPolicy := .str "policy" }
    let request := { Request.bare with instance? := some live }
    Listener.ofDocument description = .ok live ∧
    ∃ first second fleet fleet',
      (inMemory.reconcile request).ending (Fleet.ofListeners [description] 0) =
        (.ok first, fleet) ∧
      (inMemory.reconcile { request with instance? := some first.listener }).ending fleet =
        (.ok second, fleet') ∧
      second.type = .modified := by
  intro description live request
  have hplain : Certificate.AllPlain live.certificates := by
    intro c hc
    rw [List.mem_singleton.mp hc]
    exact ⟨rfl, rfl⟩
  have hfirst : (inMemory.reconcile request).ending (Fleet.ofListeners [description] 0) = _ :=
    ending_reconcile_modify inMemory Request.build_bare rfl
      (needsUpdate_of_forward hplain rfl) rfl
  have hlive : Listener.ofDocument description = .ok live := rfl
  have hstored : (Fleet.ofListeners [description] 0).listeners.find?
    (hasMember "ListenerArn" live.arn) = some description := rfl
  have hgroups : request.targetGroups.Distinct := fun entry hm => by cases hm
  obtain ⟨drifts, hd, hiff⟩ := drifts_after_first_pass rfl Fleet.merges_client ⟨rfl, rfl⟩ hgroups
    Request.build_bare hplain hlive rfl hstored hfirst
  -- the certificate is still there
  have hne : drifts ≠ [] := fun hnil => by cases (hiff.mp hnil).2.1 rfl
  have hneeds := needsUpdate_eq_ok_of_drifts hd
  rw [List.isEmpty_eq_false_iff.mpr hne] at hneeds
  exact ⟨hlive, _, _, _, _, hfirst,
    ending_reconcile_modify inMemory Request.build_bare rfl hneeds rfl, rfl⟩

end Reconciler

end AlbListener

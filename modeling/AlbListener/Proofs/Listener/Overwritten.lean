import AlbListener.Proofs.Request.Desired

/-!
# Descriptions that are overwritten

What a call passes for a config is stored over the description of a listener. The description is
then read as a listener that has every field of the config; a field that the config leaves out is
as it was. So certificates and a TLS policy that the listener had and the config does not are all
that can still differ, and a config from which nothing had drifted changes nothing.

Results:
* `mem_remaining_iff`: what still differs.
* `keeps_withConfig`: a config from which nothing had drifted changes nothing.
* `modified_of_overwritten`: what an overwritten description is read as.
-/

namespace AlbListener.Listener

open Entries (overlay)

variable {live modified : Listener} {config : ListenerConfig} {port : ℤ}

/-- A listener after a config was stored over its description. -/
structure Modified (live : Listener) (config : ListenerConfig) (modified : Listener) : Prop where
  arn : modified.arn = live.arn
  loadBalancerArn : modified.loadBalancerArn = live.loadBalancerArn
  port : (Json.int modified.port).equals config.port = true
  protocol : modified.protocol = config.protocol
  defaultActions : modified.defaultActions = config.defaultActions
  certificates : config.certificates ≠ [] → modified.certificates = config.certificates
  certificates_left : config.certificates = [] → modified.certificates = live.certificates
  sslPolicy : config.sslPolicy ≠ .null → modified.sslPolicy = config.sslPolicy
  sslPolicy_left : config.sslPolicy = .null → modified.sslPolicy = live.sslPolicy

/-- A listener with the same fields as another one. Certificates may come in another order and more
    than once. -/
structure Keeps (live modified : Listener) : Prop where
  arn : modified.arn = live.arn
  loadBalancerArn : modified.loadBalancerArn = live.loadBalancerArn
  port : modified.port = live.port
  protocol : modified.protocol = live.protocol
  certificates : Certificate.sameSet live.certificates modified.certificates = true
  sslPolicy : live.sslPolicy.equals modified.sslPolicy = true
  defaultActions : Action.sameAll live.defaultActions modified.defaultActions = true

theorem modified_withConfig (hport : config.port.IsInteger port) :
    Modified live config (live.withConfig config port) where
  arn := rfl
  loadBalancerArn := rfl
  port := Json.equals_int_iff.mpr hport
  protocol := rfl
  defaultActions := rfl
  certificates h := if_neg (mt List.isEmpty_iff.mp h)
  certificates_left h := if_pos (List.isEmpty_iff.mpr h)
  sslPolicy h := if_neg (mt Json.isNull_iff.mp h)
  sslPolicy_left h := if_pos (Json.isNull_iff.mpr h)

/-- Certificates still differ exactly if the listener had some and the config has none, and so does
    a TLS policy. -/
theorem mem_remaining_iff {drift : Drift} :
    drift ∈ live.remaining config ↔
      (drift = .certificates live.certificates [] ∧ config.certificates = [] ∧
        live.certificates ≠ []) ∨
      (drift = .sslPolicy live.sslPolicy .null ∧ config.sslPolicy = .null ∧
        live.sslPolicy ≠ .null) := by
  simp only [remaining, List.mem_append, mem_driftUnless_iff, Bool.or_eq_true, Bool.not_eq_true',
    ← Bool.not_eq_true, not_or, not_not, List.isEmpty_iff, Json.isNull_iff, ne_eq]

/-- A config from which nothing had drifted changes nothing. -/
theorem keeps_withConfig (hport : config.port.IsInteger port) (h : live.drifts config = .ok []) :
    Keeps live (live.withConfig config port) := by
  obtain ⟨⟨hlive, -⟩, hp, hprotocol, hcertificates, hpolicy, hactions⟩ := drifts_eq_nil_iff.mp h
  refine ⟨rfl, rfl, ?_, hprotocol.symm, ?_, ?_, hactions⟩
  · rw [Json.equals_int_iff] at hp
    exact hport.unique hp
  · dsimp only [withConfig]
    split_ifs
    · exact Certificate.sameSet_refl hlive
    · exact hcertificates
  · dsimp only [withConfig]
    split_ifs with hnull
    · rw [Json.isNull_iff.mp hnull, Json.equals_null_iff] at hpolicy
      rw [hpolicy, Json.equals_null_iff]
    · exact hpolicy

/-- A description over which a config is stored is read as the listener with the config. What still
    differs is what the listener had and the config leaves out, and nothing changes if nothing had
    drifted before. -/
theorem modified_of_overwritten {members : List (String × Json)}
    (hl : ofDocument (.obj members) = .ok live) (hport : config.port.IsInteger port)
    (hactions : ∀ a ∈ config.defaultActions,
      ∃ data : Json, data.Distinct ∧ Action.ofDocument data = .ok a)
    (hpolicy : config.sslPolicy.equals config.sslPolicy = true)
    (hlive : Certificate.AllPlain live.certificates)
    (hconfig : Certificate.AllPlain config.certificates) :
    ∃ modified drifts, ofDocument (.obj (overlay members config.toApi)) = .ok modified ∧
      Modified live config modified ∧
      modified.drifts config = .ok drifts ∧
      (∀ drift, drift ∈ drifts ↔
        (drift = .certificates live.certificates [] ∧ config.certificates = [] ∧
          live.certificates ≠ []) ∨
        (drift = .sslPolicy live.sslPolicy .null ∧ config.sslPolicy = .null ∧
          live.sslPolicy ≠ .null)) ∧
      (live.drifts config = .ok [] → Keeps live modified) := by
  have ha : ∀ a ∈ config.defaultActions, a.Managed := fun a hm => by
    obtain ⟨data, hd, hread⟩ := hactions a hm
    exact Action.managed_of_ofDocument hd hread
  have hdescribes := ofDocument_eq_ok_iff.mp hl
  have hread := describes_overlay_toApi hdescribes.arn hdescribes.sslPolicy hdescribes.certificates
    hdescribes.loadBalancerArn ha (Json.toInteger_of_isInteger hport)
  have hdrifts := drifts_withConfig port ha hpolicy hconfig hlive
  rw [Json.equals_int_iff.mpr hport] at hdrifts
  exact ⟨_, _, ofDocument_eq_ok_iff.mpr hread, modified_withConfig hport, hdrifts,
    fun _ => mem_remaining_iff, keeps_withConfig hport⟩

/-! ## An HTTPS listener that becomes an HTTP one -/

/-- The description of a listener with two certificates and a TLS policy. -/
def secured : List (String × Json) :=
  [("ListenerArn", .str "arn"), ("LoadBalancerArn", .str "lb"), ("Port", .int 443),
    ("Protocol", .str "HTTPS"), ("SslPolicy", .str "strict"),
    ("DefaultActions", .arr [.obj [("Type", .str "unknown")]]),
    ("Certificates", .arr [.obj [("CertificateArn", .str "one")],
      .obj [("CertificateArn", .str "two"), ("IsDefault", .bool false)]])]

/-- Its certificates. -/
def securedCertificates : List Certificate := [⟨.str "one", .bool true⟩, ⟨.str "two", .bool false⟩]

theorem modified_of_overwritten_secured :
    ∃ modified drifts,
      ofDocument (.obj (overlay secured Request.bareConfig.toApi)) = .ok modified ∧
      modified.port = 80 ∧ modified.certificates = securedCertificates ∧
      modified.drifts Request.bareConfig = .ok drifts ∧
      .certificates securedCertificates [] ∈ drifts ∧
      .sslPolicy (.str "strict") .null ∈ drifts := by
  obtain ⟨live, hl, hcertificates, hpolicy⟩ : ∃ live, ofDocument (.obj secured) = .ok live ∧
      live.certificates = securedCertificates ∧ live.sslPolicy = .str "strict" := ⟨_, rfl, rfl, rfl⟩
  have hlive : Certificate.AllPlain live.certificates := by
    rw [hcertificates]
    simp [Certificate.AllPlain, securedCertificates, Json.isCompound]
  have hdocument : Annotations.notFoundAction.toApi.Distinct := by
    simp [Annotations.notFoundAction, Action.toApi, Action.optional, Json.isNull,
      Json.distinct_obj_iff, Entries.Distinct, Entries.names, Json.distinct_str]
  have hactions : ∀ a ∈ Request.bareConfig.defaultActions,
      ∃ data : Json, data.Distinct ∧ Action.ofDocument data = .ok a :=
    List.forall_mem_singleton.mpr
      ⟨_, hdocument, Action.ofDocument_toApi Annotations.managed_notFoundAction⟩
  obtain ⟨modified, drifts, hread, hmodified, hdrifts, hmem, -⟩ := modified_of_overwritten hl
    (Json.isInteger_int 80) hactions (Json.equals_null_iff.mpr rfl) hlive (fun _ hc => by cases hc)
  have hport := Json.equals_int_iff.mp hmodified.port
  have hleft := (hmodified.certificates_left rfl).trans hcertificates
  rw [hcertificates, hpolicy] at hmem
  exact ⟨modified, drifts, hread, hport.unique (Json.isInteger_int 80), hleft, hdrifts,
    (hmem _).mpr (.inl ⟨rfl, rfl, List.cons_ne_nil _ _⟩),
    (hmem _).mpr (.inr ⟨rfl, rfl, fun h => by cases h⟩)⟩

end AlbListener.Listener

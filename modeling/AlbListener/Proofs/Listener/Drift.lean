import AlbListener.Proofs.Listener.Description

/-!
# Drift after a call

A config that was stored over a description is what the listener is now, but for the members
that the config leaves out: certificates and a TLS policy that the config does not have are
not sent, and so they stay.

Results:
* `drifts_eq_nil_iff`: when no field has drifted.
* `describes_stored`, `describes_created`: what a modified and a created listener are.
* `drifts_withConfig`: what has drifted of a modified listener.
* `drifts_withConfig_iff`, `drifts_created`: when no field of them has drifted.
-/

namespace AlbListener

/-! ## Certificates -/

namespace Certificate

/-- Certificates that can be members of a set. -/
def AllPlain (certificates : List Certificate) : Prop :=
  ∀ c ∈ certificates, c.arn.isCompound = false ∧ c.isDefault.isCompound = false

theorem checkMember_eq_ok_iff {c : Certificate} :
    c.checkMember = .ok () ↔ c.arn.isCompound = false ∧ c.isDefault.isCompound = false := by
  unfold checkMember
  split_ifs <;> simp_all

theorem forM_checkMember_eq_ok_iff {certificates : List Certificate} :
    certificates.forM checkMember = .ok () ↔ AllPlain certificates := by
  rw [forM_eq_ok_iff]
  exact forall₂_congr fun c _ => checkMember_eq_ok_iff

theorem same_refl {c : Certificate}
    (h : c.arn.isCompound = false ∧ c.isDefault.isCompound = false) : c.same c = true := by
  rw [same, Json.same_refl (.plain h.1), Json.same_refl (.plain h.2), Bool.and_self]

theorem sameSet_refl {certificates : List Certificate} (h : AllPlain certificates) :
    sameSet certificates certificates = true := by
  rw [sameSet_eq_true_iff]
  exact ⟨fun c hc => ⟨c, hc, same_refl (h c hc)⟩, fun c hc => ⟨c, hc, same_refl (h c hc)⟩⟩

theorem sameSet_nil_iff {certificates : List Certificate} :
    sameSet certificates [] = true ↔ certificates = [] := by
  rw [sameSet_eq_true_iff]
  constructor
  · rintro ⟨h, -⟩
    refine List.eq_nil_iff_forall_not_mem.mpr fun c hc => ?_
    obtain ⟨d, hd, -⟩ := h c hc
    cases hd
  · rintro rfl
    exact ⟨by simp, by simp⟩

end Certificate

namespace Listener

open Entries (get? overlay)

/-! ## No drift -/

theorem driftUnless_eq_nil_iff {same : Bool} {drift : Drift} :
    driftUnless same drift = [] ↔ same = true := by
  cases same <;> simp [driftUnless]

theorem mem_driftUnless_iff {same : Bool} {drift other : Drift} :
    other ∈ driftUnless same drift ↔ other = drift ∧ ¬same = true := by
  cases same <;> simp [driftUnless]

/-- Fields can be compared if the certificates can be put into a set. -/
theorem exists_drifts {observed : Listener} {target : ListenerConfig}
    (ho : Certificate.AllPlain observed.certificates)
    (ht : Certificate.AllPlain target.certificates) :
    ∃ drifts, observed.drifts target = .ok drifts := by
  rw [drifts, bind_of_eq_ok (Certificate.forM_checkMember_eq_ok_iff.mpr ho),
    bind_of_eq_ok (Certificate.forM_checkMember_eq_ok_iff.mpr ht)]
  exact ⟨_, rfl⟩

/-- No field has drifted exactly if every field is as it should be. -/
theorem drifts_eq_nil_iff {observed : Listener} {target : ListenerConfig} :
    observed.drifts target = .ok [] ↔
      (Certificate.AllPlain observed.certificates ∧ Certificate.AllPlain target.certificates) ∧
      (Json.int observed.port).equals target.port = true ∧
      observed.protocol = target.protocol ∧
      Certificate.sameSet observed.certificates target.certificates = true ∧
      observed.sslPolicy.equals target.sslPolicy = true ∧
      Action.sameAll observed.defaultActions target.defaultActions = true := by
  rw [drifts, bind_eq_ok_iff, ← Certificate.forM_checkMember_eq_ok_iff,
    ← Certificate.forM_checkMember_eq_ok_iff]
  constructor
  · rintro ⟨_, ho, h⟩
    obtain ⟨_, ht, h⟩ := bind_eq_ok_iff.mp h
    simp only [pure, Except.pure, Except.ok.injEq, List.append_eq_nil_iff,
      driftUnless_eq_nil_iff, beq_iff_eq, and_assoc] at h
    exact ⟨⟨ho, ht⟩, h⟩
  · rintro ⟨⟨ho, ht⟩, h⟩
    refine ⟨(), ho, ?_⟩
    rw [bind_of_eq_ok ht]
    simpa only [pure, Except.pure, Except.ok.injEq, List.append_eq_nil_iff,
      driftUnless_eq_nil_iff, beq_iff_eq, and_assoc] using h

/-- Default actions have drifted if they are not the same in order. -/
theorem mem_drifts_defaultActions {observed : Listener} {target : ListenerConfig}
    {drifts : List Drift} (h : observed.drifts target = .ok drifts)
    (ha : ¬Action.sameAll observed.defaultActions target.defaultActions = true) :
    .defaultActions observed.defaultActions target.defaultActions ∈ drifts := by
  rw [Listener.drifts] at h
  obtain ⟨_, -, h⟩ := bind_eq_ok_iff.mp h
  obtain ⟨_, -, h⟩ := bind_eq_ok_iff.mp h
  cases h
  exact List.mem_append_right _ (mem_driftUnless_iff.mpr ⟨rfl, ha⟩)

/-! ## Storing a config -/

/-- A listener after a config was stored over its description, whose port is then read as an
    integer. What the config does not have is not sent and stays as it was. -/
def withConfig (live : Listener) (config : ListenerConfig) (port : ℤ) : Listener :=
  { live with
    port
    protocol := config.protocol
    defaultActions := config.defaultActions
    sslPolicy := if config.sslPolicy.isNull then live.sslPolicy else config.sslPolicy
    certificates :=
      if config.certificates.isEmpty then live.certificates else config.certificates }

/-- The listener that is created for a config. -/
def created (arn loadBalancerArn : Json) (config : ListenerConfig) (port : ℤ) : Listener :=
  { arn
    port
    protocol := config.protocol
    defaultActions := config.defaultActions
    sslPolicy := config.sslPolicy
    certificates := config.certificates
    loadBalancerArn }

/-- A listener of which only the arns are known. -/
def unconfigured (arn loadBalancerArn : Json) : Listener :=
  { arn
    port := 0
    protocol := .http
    defaultActions := []
    sslPolicy := .null
    certificates := []
    loadBalancerArn }

theorem created_eq_withConfig (arn loadBalancerArn : Json) (config : ListenerConfig) (port : ℤ) :
    created arn loadBalancerArn config port =
      (unconfigured arn loadBalancerArn).withConfig config port := by
  have hpolicy : (if config.sslPolicy.isNull then Json.null else config.sslPolicy) =
      config.sslPolicy := by
    split_ifs with h
    · exact (Json.isNull_iff.mp h).symm
    · rfl
  have hcertificates : (if config.certificates.isEmpty then [] else config.certificates) =
      config.certificates := by
    split_ifs with h
    · exact (List.isEmpty_iff.mp h).symm
    · rfl
  dsimp only [created, withConfig, unconfigured]
  rw [hpolicy, hcertificates]

/-- What a description holds after a config was stored over it. -/
theorem get?_overlay_toApi (members : List (String × Json)) (config : ListenerConfig)
    (key : String) :
    get? (overlay members config.toApi) key = (get? config.toApi key).or (get? members key) :=
  Entries.get?_overlay _ _ _ config.distinct_toApi

/-- A description over which a config was stored says what the config says. What the config
    leaves out it says as before. -/
theorem describes_overlay_toApi {members : List (String × Json)} {live : Listener}
    {config : ListenerConfig} {port : ℤ} (harn : get? members "ListenerArn" = some live.arn)
    (hpolicy : (get? members "SslPolicy").getD .null = live.sslPolicy)
    (hcertificates : certificatesIn ((get? members "Certificates").getD .null) =
      .ok live.certificates)
    (hbalancer : (get? members "LoadBalancerArn").getD .null = live.loadBalancerArn)
    (ha : ∀ a ∈ config.defaultActions, a.Managed) (hp : config.port.toInteger = .ok port) :
    Describes (overlay members config.toApi) (live.withConfig config port) := by
  have hstored := get?_overlay_toApi members config
  refine ⟨?_, ?_, ⟨config.port, ?_, hp⟩, ⟨.str config.protocol.name, ?_, ?_⟩, ?_, ?_, ?_⟩
  · rw [hstored, config.get?_toApi_defaultActions]
    exact actionsIn_toApi ha
  · rw [hstored, config.get?_toApi_of_not_mem _ (by decide)]
    exact harn
  · rw [hstored, config.get?_toApi_port]
    rfl
  · rw [hstored, config.get?_toApi_protocol]
    rfl
  · exact Protocol.ofJson_name _
  · rw [hstored, config.get?_toApi_sslPolicy]
    dsimp only [withConfig]
    split_ifs
    · exact hpolicy
    · rfl
  · rw [hstored, config.get?_toApi_certificates]
    dsimp only [withConfig]
    split_ifs
    · exact hcertificates
    · exact certificatesIn_toApi _
  · rw [hstored, config.get?_toApi_of_not_mem _ (by decide)]
    exact hbalancer

/-- The parameters of a modify call are stored over a description. -/
theorem describes_stored {members : List (String × Json)} {live : Listener}
    {config : ListenerConfig} {port : ℤ} (h : Describes members live)
    (ha : ∀ a ∈ config.defaultActions, a.Managed) (hp : config.port.toInteger = .ok port) :
    Describes (overlay members (("ListenerArn", live.arn) :: config.toApi))
      (live.withConfig config port) := by
  have hother (key : String) (hkey : "ListenerArn" ≠ key) :
      get? (Entries.put members "ListenerArn" live.arn) key = get? members key :=
    Entries.get?_put_of_ne _ _ hkey
  refine describes_overlay_toApi (Entries.get?_put_self ..) ?_ ?_ ?_ ha hp
  · rw [hother _ (by decide), h.sslPolicy]
  · rw [hother _ (by decide), h.certificates]
  · rw [hother _ (by decide), h.loadBalancerArn]

/-- The parameters of a create call are stored under an arn. -/
theorem describes_created {arn loadBalancerArn : Json} {config : ListenerConfig} {port : ℤ}
    (ha : ∀ a ∈ config.defaultActions, a.Managed) (hp : config.port.toInteger = .ok port) :
    Describes (overlay [("ListenerArn", arn)] (("LoadBalancerArn", loadBalancerArn) :: config.toApi))
      (created arn loadBalancerArn config port) := by
  rw [created_eq_withConfig]
  exact describes_overlay_toApi rfl rfl rfl rfl ha hp

/-- A description over which a config was stored is read as nothing else. -/
theorem eq_withConfig_of_stored {members : List (String × Json)} {live modified : Listener}
    {config : ListenerConfig} (h : Describes members live)
    (ha : ∀ a ∈ config.defaultActions, a.Managed)
    (hm : ofDocument (.obj (overlay members (("ListenerArn", live.arn) :: config.toApi))) =
      .ok modified) :
    config.port.toInteger = .ok modified.port ∧
      modified = live.withConfig config modified.port := by
  have hport : config.port.toInteger = .ok modified.port := by
    obtain ⟨port, hget, hport⟩ := (ofDocument_eq_ok_iff.mp hm).port
    rw [Entries.overlay_cons, get?_overlay_toApi, config.get?_toApi_port] at hget
    cases hget
    exact hport
  rw [ofDocument_eq_ok_iff.mpr (describes_stored h ha hport)] at hm
  exact ⟨hport, (Except.ok.inj hm).symm⟩

/-! ## Drift after storing -/

theorem plain_withConfig {live : Listener} {config : ListenerConfig} (port : ℤ)
    (hconfig : Certificate.AllPlain config.certificates)
    (hlive : Certificate.AllPlain live.certificates) :
    Certificate.AllPlain (live.withConfig config port).certificates := by
  dsimp only [withConfig]
  split_ifs
  · exact hlive
  · exact hconfig

/-- What remains to be done after a config was stored: what the listener had and the config does
    not have. -/
def remaining (live : Listener) (config : ListenerConfig) : List Drift :=
  driftUnless (!config.certificates.isEmpty || live.certificates.isEmpty)
      (.certificates live.certificates [])
    ++ driftUnless (!config.sslPolicy.isNull || live.sslPolicy.isNull)
      (.sslPolicy live.sslPolicy .null)

theorem driftUnless_certificates {live : Listener} {config : ListenerConfig} (port : ℤ)
    (hconfig : Certificate.AllPlain config.certificates) :
    driftUnless (Certificate.sameSet (live.withConfig config port).certificates config.certificates)
        (.certificates (live.withConfig config port).certificates config.certificates) =
      driftUnless (!config.certificates.isEmpty || live.certificates.isEmpty)
        (.certificates live.certificates []) := by
  dsimp only [withConfig]
  cases hempty : config.certificates.isEmpty with
  | true =>
    have hsame : Certificate.sameSet live.certificates [] = live.certificates.isEmpty :=
      Bool.eq_iff_iff.mpr (Certificate.sameSet_nil_iff.trans List.isEmpty_iff.symm)
    rw [List.isEmpty_iff.mp hempty, if_pos rfl, hsame]
    rfl
  | false =>
    rw [if_neg Bool.false_ne_true, Certificate.sameSet_refl hconfig]
    rfl

theorem driftUnless_sslPolicy {live : Listener} {config : ListenerConfig} (port : ℤ)
    (hpolicy : config.sslPolicy.equals config.sslPolicy = true) :
    driftUnless ((live.withConfig config port).sslPolicy.equals config.sslPolicy)
        (.sslPolicy (live.withConfig config port).sslPolicy config.sslPolicy) =
      driftUnless (!config.sslPolicy.isNull || live.sslPolicy.isNull)
        (.sslPolicy live.sslPolicy .null) := by
  dsimp only [withConfig]
  cases hnull : config.sslPolicy.isNull with
  | true =>
    have hequals : live.sslPolicy.equals .null = live.sslPolicy.isNull :=
      Bool.eq_iff_iff.mpr (Json.equals_null_iff.trans Json.isNull_iff.symm)
    rw [Json.isNull_iff.mp hnull, if_pos rfl, hequals]
    rfl
  | false =>
    rw [if_neg Bool.false_ne_true, hpolicy]
    rfl

/-- After a config was stored, a field has drifted if the config leaves it out and the listener had
    it, or if the port was not read as it is. -/
theorem drifts_withConfig {live : Listener} {config : ListenerConfig} (port : ℤ)
    (ha : ∀ a ∈ config.defaultActions, a.Managed)
    (hpolicy : config.sslPolicy.equals config.sslPolicy = true)
    (hconfig : Certificate.AllPlain config.certificates)
    (hlive : Certificate.AllPlain live.certificates) :
    (live.withConfig config port).drifts config = .ok (driftUnless
      ((Json.int port).equals config.port) (.port port config.port) ++ live.remaining config) := by
  have hplain := plain_withConfig port hconfig hlive
  rw [drifts, bind_of_eq_ok (Certificate.forM_checkMember_eq_ok_iff.mpr hplain),
    bind_of_eq_ok (Certificate.forM_checkMember_eq_ok_iff.mpr hconfig),
    driftUnless_certificates port hconfig, driftUnless_sslPolicy port hpolicy]
  dsimp only [withConfig]
  rw [beq_self_eq_true, Action.sameAll_refl ha]
  simp only [driftUnless, if_true, List.append_nil, List.append_assoc, remaining]
  rfl

/-- Nothing remains exactly if the config leaves out only what the listener did not have. -/
theorem remaining_eq_nil_iff {live : Listener} {config : ListenerConfig} :
    live.remaining config = [] ↔ (config.certificates = [] → live.certificates = []) ∧
      (config.sslPolicy = .null → live.sslPolicy = .null) := by
  simp only [remaining, List.append_eq_nil_iff, driftUnless_eq_nil_iff, Bool.or_eq_true,
    Bool.not_eq_true', ← Bool.not_eq_true, List.isEmpty_iff, Json.isNull_iff, imp_iff_not_or]

/-- After a config was stored no field has drifted exactly if the port was read as it is, and
    the config leaves out only what the listener did not have. -/
theorem drifts_withConfig_iff {live : Listener} {config : ListenerConfig} (port : ℤ)
    (ha : ∀ a ∈ config.defaultActions, a.Managed)
    (hpolicy : config.sslPolicy = .null ∨ ∃ policy, config.sslPolicy = .str policy)
    (hconfig : Certificate.AllPlain config.certificates)
    (hlive : Certificate.AllPlain live.certificates) :
    (live.withConfig config port).drifts config = .ok [] ↔
      config.port.IsInteger port ∧ (config.certificates = [] → live.certificates = []) ∧
      (config.sslPolicy = .null → live.sslPolicy = .null) := by
  have hself : config.sslPolicy.equals config.sslPolicy = true := by
    rcases hpolicy with hnull | ⟨policy, htext⟩
    · rw [hnull, Json.equals_null_iff]
    · rw [htext, Json.equals_str_self]
  rw [drifts_withConfig port ha hself hconfig hlive, Except.ok.injEq, List.append_eq_nil_iff,
    driftUnless_eq_nil_iff, Json.equals_int_iff, remaining_eq_nil_iff]

/-- A listener that was created for a config is as the config says. -/
theorem drifts_created (arn loadBalancerArn : Json) {config : ListenerConfig} {port : ℤ}
    (ha : ∀ a ∈ config.defaultActions, a.Managed)
    (hpolicy : config.sslPolicy = .null ∨ ∃ policy, config.sslPolicy = .str policy)
    (hconfig : Certificate.AllPlain config.certificates) (hp : config.port.IsInteger port) :
    (created arn loadBalancerArn config port).drifts config = .ok [] := by
  rw [created_eq_withConfig]
  have hnone : Certificate.AllPlain (unconfigured arn loadBalancerArn).certificates :=
    fun c hc => by cases hc
  exact (drifts_withConfig_iff port ha hpolicy hconfig hnone).mpr
    ⟨hp, fun _ => rfl, fun _ => rfl⟩

end Listener

end AlbListener

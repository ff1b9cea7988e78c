import AlbListener.Proofs.Json.Agreement
import AlbListener.Proofs.Listener.Drift

/-!
# Drift and equality

Two sides agree on a field if their values are equal there: certificates as sets, and default actions
in order, but for the client secrets. That is an equivalence (`Fields.Agree`), and a listener has
drifted from a config exactly on the fields on which the two do not agree.

Results:
* `Action.same_iff_agrees`: when two actions are the same.
* `Certificate.sameSet_iff_mem`: when two lists hold the same certificates.
* `Listener.drifts_eq_nil_iff_agree`: nothing has drifted exactly if the two sides agree.
* `Listener.drifts_exact`: which fields have drifted.
-/

namespace AlbListener

open Json (Distinct)

/-! ## Actions -/

namespace Action

/-- The values by which an action is compared. -/
def compared : Action → List Json
  | .forward arn => [arn]
  | .fixedResponse status contentType messageBody => [status, contentType, messageBody]
  | .redirect status protocol port host path query => [status, protocol, port, host, path, query]
  | .authenticate _ settings _ => [.obj settings]
  | .unmanaged .. => []

/-- Actions that are equal. The secrets of authenticate actions do not count. -/
inductive Agrees : Action → Action → Prop
  | forward {arn arn' : Json} (h : arn.Agrees arn') : Agrees (.forward arn) (.forward arn')
  | fixedResponse {status status' contentType contentType' messageBody messageBody' : Json}
      (hs : status.Agrees status') (hc : contentType.Agrees contentType')
      (hm : messageBody.Agrees messageBody') :
      Agrees (.fixedResponse status contentType messageBody)
        (.fixedResponse status' contentType' messageBody')
  | redirect {status status' protocol protocol' port port' host host' path path' query query' : Json}
      (hs : status.Agrees status') (hp : protocol.Agrees protocol') (hn : port.Agrees port')
      (hh : host.Agrees host') (ha : path.Agrees path') (hq : query.Agrees query') :
      Agrees (.redirect status protocol port host path query)
        (.redirect status' protocol' port' host' path' query')
  | authenticate (provider : Provider) {settings settings' : List (String × Json)}
      (secret secret' : Json) (h : (Json.obj settings).Agrees (.obj settings')) :
      Agrees (.authenticate provider settings secret) (.authenticate provider settings' secret')
  | unmanaged (type document : String) : Agrees (.unmanaged type document) (.unmanaged type document)

theorem Agrees.symm {a b : Action} (h : a.Agrees b) : b.Agrees a := by
  cases h with
  | forward h => exact .forward h.symm
  | fixedResponse hs hc hm => exact .fixedResponse hs.symm hc.symm hm.symm
  | redirect hs hp hn hh ha hq =>
    exact .redirect hs.symm hp.symm hn.symm hh.symm ha.symm hq.symm
  | authenticate provider secret secret' h => exact .authenticate provider secret' secret h.symm
  | unmanaged type document => exact .unmanaged type document

theorem Agrees.trans {a b c : Action} (h : a.Agrees b) (h' : b.Agrees c) : a.Agrees c := by
  cases h with
  | forward h =>
    cases h' with
    | forward h' => exact .forward (h.trans h')
  | fixedResponse hs hc hm =>
    cases h' with
    | fixedResponse hs' hc' hm' =>
      exact .fixedResponse (hs.trans hs') (hc.trans hc') (hm.trans hm')
  | redirect hs hp hn hh ha hq =>
    cases h' with
    | redirect hs' hp' hn' hh' ha' hq' =>
      exact .redirect (hs.trans hs') (hp.trans hp') (hn.trans hn') (hh.trans hh') (ha.trans ha')
        (hq.trans hq')
  | authenticate provider secret _ h =>
    cases h' with
    | authenticate _ _ secret' h' => exact .authenticate provider secret secret' (h.trans h')
  | unmanaged type document => exact h'

/-- Actions are the same exactly if they are equal. -/
theorem same_iff_agrees {a b : Action} (ha : ∀ value ∈ a.compared, value.Distinct)
    (hb : ∀ value ∈ b.compared, value.Distinct) : a.same b = true ↔ a.Agrees b := by
  cases a with
  | forward arn =>
    cases b with
    | forward arn' =>
      simp only [compared, List.forall_mem_singleton] at ha hb
      rw [same, Json.same_iff_agrees ha hb]
      refine ⟨.forward, fun h => ?_⟩
      cases h with
      | forward h => exact h
    | _ => exact iff_of_false Bool.false_ne_true fun h => by cases h
  | fixedResponse status contentType messageBody =>
    cases b with
    | fixedResponse status' contentType' messageBody' =>
      simp only [compared, List.forall_mem_cons] at ha hb
      rw [same, Bool.and_eq_true, Bool.and_eq_true, Json.same_iff_agrees ha.1 hb.1,
        Json.same_iff_agrees ha.2.1 hb.2.1, Json.same_iff_agrees ha.2.2.1 hb.2.2.1]
      constructor
      · rintro ⟨⟨hs, hc⟩, hm⟩
        exact .fixedResponse hs hc hm
      · intro h
        cases h with
        | fixedResponse hs hc hm => exact ⟨⟨hs, hc⟩, hm⟩
    | _ => exact iff_of_false Bool.false_ne_true fun h => by cases h
  | redirect status protocol port host path query =>
    cases b with
    | redirect status' protocol' port' host' path' query' =>
      simp only [compared, List.forall_mem_cons] at ha hb
      obtain ⟨has, hap, han, hah, haa, haq, -⟩ := ha
      obtain ⟨hbs, hbp, hbn, hbh, hba, hbq, -⟩ := hb
      simp only [same, Bool.and_eq_true, Json.same_iff_agrees has hbs, Json.same_iff_agrees hap hbp,
        Json.same_iff_agrees han hbn, Json.same_iff_agrees hah hbh, Json.same_iff_agrees haa hba,
        Json.same_iff_agrees haq hbq]
      constructor
      · rintro ⟨⟨⟨⟨⟨hs, hp⟩, hn⟩, hh⟩, ha⟩, hq⟩
        exact .redirect hs hp hn hh ha hq
      · intro h
        cases h with
        | redirect hs hp hn hh ha hq => exact ⟨⟨⟨⟨⟨hs, hp⟩, hn⟩, hh⟩, ha⟩, hq⟩
    | _ => exact iff_of_false Bool.false_ne_true fun h => by cases h
  | authenticate provider settings secret =>
    cases b with
    | authenticate provider' settings' secret' =>
      simp only [compared, List.forall_mem_singleton] at ha hb
      rw [same, Bool.and_eq_true, beq_iff_eq, Json.same_iff_agrees ha hb]
      constructor
      · rintro ⟨rfl, h⟩
        exact .authenticate provider secret secret' h
      · intro h
        cases h with
        | authenticate _ _ _ h => exact ⟨rfl, h⟩
    | _ => exact iff_of_false Bool.false_ne_true fun h => by cases h
  | unmanaged type document =>
    cases b with
    | unmanaged type' document' =>
      rw [same, Bool.and_eq_true, beq_iff_eq, beq_iff_eq]
      constructor
      · rintro ⟨rfl, rfl⟩
        exact .unmanaged type document
      · intro h
        cases h
        exact ⟨rfl, rfl⟩
    | _ => exact iff_of_false Bool.false_ne_true fun h => by cases h

/-- Lists of actions are the same exactly if they are equal one after the other. -/
theorem sameAll_iff_agrees {as bs : List Action}
    (ha : ∀ a ∈ as, ∀ value ∈ a.compared, value.Distinct)
    (hb : ∀ b ∈ bs, ∀ value ∈ b.compared, value.Distinct) :
    sameAll as bs = true ↔ List.Forall₂ Agrees as bs := by
  induction as generalizing bs with
  | nil => cases bs <;> simp [sameAll]
  | cons a as ih =>
    cases bs with
    | nil => simp [sameAll]
    | cons b bs =>
      obtain ⟨ha, has⟩ := List.forall_mem_cons.mp ha
      obtain ⟨hb, hbs⟩ := List.forall_mem_cons.mp hb
      rw [sameAll, Bool.and_eq_true, same_iff_agrees ha hb, ih has hbs, List.forall₂_cons]

end Action

/-! ## Certificates -/

namespace Certificate

/-- A certificate with a text for an arn and a flag. -/
def Typed (c : Certificate) : Prop := ∃ arn flag, c = ⟨.str arn, .bool flag⟩

theorem Typed.plain {c : Certificate} (h : c.Typed) :
    c.arn.isCompound = false ∧ c.isDefault.isCompound = false := by
  obtain ⟨arn, flag, rfl⟩ := h
  exact ⟨rfl, rfl⟩

theorem same_iff_eq {c d : Certificate} (hc : c.Typed) (hd : d.Typed) :
    c.same d = true ↔ c = d := by
  obtain ⟨arn, flag, rfl⟩ := hc
  obtain ⟨arn', flag', rfl⟩ := hd
  have hflag : (Json.bool flag).same (.bool flag') = true ↔ flag = flag' := by
    rw [Json.same_eq_sameScalar rfl]
    simp only [Json.sameScalar, Json.number?, beq_iff_eq, Number.ofInt_inj]
    cases flag <;> cases flag' <;> simp
  rw [same, Bool.and_eq_true, hflag, Json.same_eq_sameScalar rfl]
  simp [Json.sameScalar]

/-- Lists hold the same certificates exactly if the same certificates occur in both. -/
theorem sameSet_iff_mem {cs ds : List Certificate} (hc : ∀ c ∈ cs, c.Typed)
    (hd : ∀ d ∈ ds, d.Typed) : sameSet cs ds = true ↔ ∀ c, c ∈ cs ↔ c ∈ ds := by
  have hfound {cs ds : List Certificate} (hc : ∀ c ∈ cs, c.Typed) (hd : ∀ d ∈ ds, d.Typed) :
      (∀ c ∈ cs, ∃ d ∈ ds, c.same d = true) ↔ ∀ c ∈ cs, c ∈ ds := by
    refine forall₂_congr fun c hm => ⟨?_, fun h => ⟨c, h, (same_iff_eq (hc c hm) (hc c hm)).mpr rfl⟩⟩
    rintro ⟨d, hds, hsame⟩
    rwa [(same_iff_eq (hc c hm) (hd d hds)).mp hsame]
  rw [sameSet_eq_true_iff, hfound hc hd, hfound hd hc]
  exact ⟨fun h c => ⟨h.1 c, h.2 c⟩, fun h => ⟨fun c => (h c).mp, fun c => (h c).mpr⟩⟩

end Certificate

/-! ## Fields -/

/-- What a listener is compared by. -/
structure Fields where
  port : Json
  protocol : Protocol
  certificates : List Certificate
  sslPolicy : Json
  defaultActions : List Action

namespace Fields

/-- Fields that are equal: certificates as sets, and actions in order. -/
structure Agree (f g : Fields) : Prop where
  port : f.port.Agrees g.port
  protocol : f.protocol = g.protocol
  certificates : ∀ c, c ∈ f.certificates ↔ c ∈ g.certificates
  sslPolicy : f.sslPolicy.Agrees g.sslPolicy
  defaultActions : List.Forall₂ Action.Agrees f.defaultActions g.defaultActions

/-- Fields that can be compared: no names come again in an object, certificates have a text and a
    flag, and the TLS policy is not NaN, which equals nothing. -/
structure Comparable (f : Fields) : Prop where
  certificates : ∀ c ∈ f.certificates, c.Typed
  sslPolicy : f.sslPolicy.Distinct
  notNaN : f.sslPolicy.isNaN = false
  defaultActions : ∀ a ∈ f.defaultActions, ∀ value ∈ a.compared, value.Distinct

variable {f g h : Fields}

theorem Agree.symm (hfg : f.Agree g) : g.Agree f where
  port := hfg.port.symm
  protocol := hfg.protocol.symm
  certificates := fun c => (hfg.certificates c).symm
  sslPolicy := hfg.sslPolicy.symm
  defaultActions := (hfg.defaultActions.imp fun _ _ => Action.Agrees.symm).flip

theorem Agree.trans (hfg : f.Agree g) (hgh : g.Agree h) : f.Agree h where
  port := hfg.port.trans hgh.port
  protocol := hfg.protocol.trans hgh.protocol
  certificates := fun c => (hfg.certificates c).trans (hgh.certificates c)
  sslPolicy := hfg.sslPolicy.trans hgh.sslPolicy
  defaultActions := Json.forall₂_trans (fun _ _ _ _ => Action.Agrees.trans) hfg.defaultActions
    hgh.defaultActions

end Fields

/-- What a live listener is compared by. -/
def Listener.fields (l : Listener) : Fields :=
  ⟨.int l.port, l.protocol, l.certificates, l.sslPolicy, l.defaultActions⟩

/-- What a config is compared by. -/
def ListenerConfig.fields (config : ListenerConfig) : Fields :=
  ⟨config.port, config.protocol, config.certificates, config.sslPolicy, config.defaultActions⟩

namespace Listener

/-- The fields on which two sides do not agree, with the values of both. -/
inductive Differs (observed : Listener) (target : ListenerConfig) : Drift → Prop
  | port (h : ¬(Json.int observed.port).Agrees target.port) :
      Differs observed target (.port observed.port target.port)
  | protocol (h : observed.protocol ≠ target.protocol) :
      Differs observed target (.protocol observed.protocol target.protocol)
  | certificates (h : ∃ c, ¬(c ∈ observed.certificates ↔ c ∈ target.certificates)) :
      Differs observed target (.certificates observed.certificates target.certificates)
  | sslPolicy (h : ¬observed.sslPolicy.Agrees target.sslPolicy) :
      Differs observed target (.sslPolicy observed.sslPolicy target.sslPolicy)
  | defaultActions (h : ¬List.Forall₂ Action.Agrees observed.defaultActions target.defaultActions) :
      Differs observed target (.defaultActions observed.defaultActions target.defaultActions)

theorem equals_int_iff_agrees {n : ℤ} {value : Json} :
    (Json.int n).equals value = true ↔ (Json.int n).Agrees value := by
  rw [Json.agrees_iff_sameScalar rfl, ← Json.same_eq_sameScalar rfl]
  rfl

section

variable {observed : Listener} {target : ListenerConfig} (ho : observed.fields.Comparable)
  (ht : target.fields.Comparable)

include ho ht

theorem equals_sslPolicy_iff :
    observed.sslPolicy.equals target.sslPolicy = true ↔
      observed.sslPolicy.Agrees target.sslPolicy := by
  rw [Json.equals, show observed.sslPolicy.isNaN = false from ho.notNaN, Bool.not_false,
    Bool.true_and]
  exact Json.same_iff_agrees ho.sslPolicy ht.sslPolicy

theorem sameSet_certificates_iff :
    Certificate.sameSet observed.certificates target.certificates = true ↔
      ∀ c, c ∈ observed.certificates ↔ c ∈ target.certificates :=
  Certificate.sameSet_iff_mem ho.certificates ht.certificates

theorem sameAll_defaultActions_iff :
    Action.sameAll observed.defaultActions target.defaultActions = true ↔
      List.Forall₂ Action.Agrees observed.defaultActions target.defaultActions :=
  Action.sameAll_iff_agrees ho.defaultActions ht.defaultActions

/-- Of fields that can be compared, those have drifted on which the two sides do not agree, each once
    and in a fixed order. -/
theorem exists_drifts_exact :
    ∃ drifts, observed.drifts target = .ok drifts ∧
      (drifts.map Drift.field).Sublist
        ["port", "protocol", "certificates", "ssl_policy", "default_actions"] ∧
      ∀ drift, drift ∈ drifts ↔ Differs observed target drift := by
  have hoc : Certificate.AllPlain observed.certificates := fun c hc => (ho.certificates c hc).plain
  have htc : Certificate.AllPlain target.certificates := fun c hc => (ht.certificates c hc).plain
  rw [drifts, bind_of_eq_ok (Certificate.forM_checkMember_eq_ok_iff.mpr hoc),
    bind_of_eq_ok (Certificate.forM_checkMember_eq_ok_iff.mpr htc)]
  refine ⟨_, rfl, ?_, fun drift => ?_⟩
  · have hsub (same : Bool) (drift : Drift) :
        ((driftUnless same drift).map Drift.field).Sublist [drift.field] := by
      cases same <;> simp [driftUnless]
    simp only [List.map_append]
    exact ((((hsub _ _).append (hsub _ _)).append (hsub _ _)).append (hsub _ _)).append (hsub _ _)
  · simp only [List.mem_append, mem_driftUnless_iff, equals_int_iff_agrees, beq_iff_eq,
      sameSet_certificates_iff ho ht, equals_sslPolicy_iff ho ht, sameAll_defaultActions_iff ho ht]
    constructor
    · rintro ((((⟨rfl, h⟩ | ⟨rfl, h⟩) | ⟨rfl, h⟩) | ⟨rfl, h⟩) | ⟨rfl, h⟩)
      · exact .port h
      · exact .protocol h
      · exact .certificates (not_forall.mp h)
      · exact .sslPolicy h
      · exact .defaultActions h
    · intro h
      cases h with
      | port h => exact .inl (.inl (.inl (.inl ⟨rfl, h⟩)))
      | protocol h => exact .inl (.inl (.inl (.inr ⟨rfl, h⟩)))
      | certificates h => exact .inl (.inl (.inr ⟨rfl, not_forall.mpr h⟩))
      | sslPolicy h => exact .inl (.inr ⟨rfl, h⟩)
      | defaultActions h => exact .inr ⟨rfl, h⟩

/-- Nothing has drifted exactly if the two sides agree on every field. -/
theorem drifts_eq_nil_iff_agree :
    observed.drifts target = .ok [] ↔ observed.fields.Agree target.fields := by
  rw [drifts_eq_nil_iff, equals_int_iff_agrees, sameSet_certificates_iff ho ht,
    equals_sslPolicy_iff ho ht, sameAll_defaultActions_iff ho ht]
  constructor
  · rintro ⟨-, hport, hprotocol, hcertificates, hpolicy, hactions⟩
    exact ⟨hport, hprotocol, hcertificates, hpolicy, hactions⟩
  · rintro ⟨hport, hprotocol, hcertificates, hpolicy, hactions⟩
    exact ⟨⟨fun c hc => (ho.certificates c hc).plain, fun c hc => (ht.certificates c hc).plain⟩,
      hport, hprotocol, hcertificates, hpolicy, hactions⟩

/-- A field has drifted exactly if the two sides do not agree on it. If a listener has not drifted
    from either of two configs, then every listener that has not drifted from the first has not
    drifted from the second. -/
theorem drifts_exact :
    (∃ drifts, observed.drifts target = .ok drifts ∧
      (drifts.map Drift.field).Sublist
        ["port", "protocol", "certificates", "ssl_policy", "default_actions"] ∧
      ∀ drift, drift ∈ drifts ↔ Differs observed target drift) ∧
    ∀ {other : Listener} {config : ListenerConfig}, other.fields.Comparable →
      config.fields.Comparable → observed.drifts target = .ok [] →
      observed.drifts config = .ok [] → other.drifts target = .ok [] →
      other.drifts config = .ok [] := by
  refine ⟨exists_drifts_exact ho ht, fun {other config} hother hconfig h h' hshared => ?_⟩
  rw [drifts_eq_nil_iff_agree ho ht] at h
  rw [drifts_eq_nil_iff_agree ho hconfig] at h'
  rw [drifts_eq_nil_iff_agree hother ht] at hshared
  exact (drifts_eq_nil_iff_agree hother hconfig).mpr ((hshared.trans h.symm).trans h')

end

/-! ## Certificates in another order -/

/-- Two certificates, the first of which is the default one. -/
def firstCertificate : Certificate := ⟨.str "first", .bool true⟩
def secondCertificate : Certificate := ⟨.str "second", .bool false⟩

/-- The actions of a listener whose users sign in with a secret. -/
def signedIn (secret : Json) : List Action := [.authenticate .oidc [] secret, .forward (.str "group")]

/-- A listener on the first port with these actions. -/
def listening (certificates : List Certificate) (secret : Json) : Listener where
  arn := .str "arn"
  port := 1
  protocol := .https
  defaultActions := signedIn secret
  sslPolicy := .str "policy"
  certificates
  loadBalancerArn := .str "lb"

/-- A config of a listener with both certificates, on a port that may be written in any way. -/
def desiring (port : Json) : ListenerConfig where
  port
  protocol := .https
  defaultActions := signedIn .null
  sslPolicy := .str "policy"
  certificates := [firstCertificate, secondCertificate]
  defaultActions_ne_nil := List.cons_ne_nil _ _
  oneDefault := by decide

theorem distinct_signedIn (secret : Json) :
    ∀ a ∈ signedIn secret, ∀ value ∈ a.compared, value.Distinct := by
  simp [signedIn, Action.compared, Json.distinct_obj_nil, Json.distinct_str]

theorem agree_signedIn (secret secret' : Json) :
    List.Forall₂ Action.Agrees (signedIn secret) (signedIn secret') :=
  .cons (.authenticate .oidc secret secret' (.refl _)) (.cons (.forward (.refl _)) .nil)

theorem typed_certificates : firstCertificate.Typed ∧ secondCertificate.Typed :=
  ⟨⟨_, _, rfl⟩, ⟨_, _, rfl⟩⟩

theorem comparable_listening {certificates : List Certificate}
    (h : ∀ c ∈ certificates, c = firstCertificate ∨ c = secondCertificate) (secret : Json) :
    (listening certificates secret).fields.Comparable := by
  refine ⟨fun c hc => ?_, Json.distinct_str _, rfl, distinct_signedIn secret⟩
  rcases h c hc with rfl | rfl
  · exact typed_certificates.1
  · exact typed_certificates.2

theorem comparable_desiring (port : Json) : (desiring port).fields.Comparable := by
  refine ⟨?_, Json.distinct_str _, rfl, distinct_signedIn .null⟩
  exact List.forall_mem_cons.mpr ⟨typed_certificates.1,
    List.forall_mem_singleton.mpr typed_certificates.2⟩

theorem agree_listening {certificates : List Certificate} {port : Json}
    (hc : ∀ c, c ∈ certificates ↔ c = firstCertificate ∨ c = secondCertificate)
    (hp : (Json.int 1).Agrees port) (secret : Json) :
    (listening certificates secret).fields.Agree (desiring port).fields where
  port := hp
  protocol := rfl
  certificates := fun c => (hc c).trans (by simp [ListenerConfig.fields, desiring])
  sslPolicy := .refl _
  defaultActions := agree_signedIn secret .null

/-- Certificates may come again and in another order, secrets may differ, and a port may be written
    in another way; but a certificate that is missing is reported, and nothing else is. -/
theorem drifts_exact_shuffled :
    (listening [secondCertificate, firstCertificate, secondCertificate] (.str "hidden")).drifts
        (desiring (.int 1)) = .ok [] ∧
      (listening [firstCertificate, secondCertificate] .null).drifts (desiring (.bool true)) =
        .ok [] ∧
      ∃ drifts, (listening [firstCertificate] .null).drifts (desiring (.int 1)) = .ok drifts ∧
        ∀ drift, drift ∈ drifts ↔
          drift = .certificates [firstCertificate] [firstCertificate, secondCertificate] := by
  have hshuffled : (listening [secondCertificate, firstCertificate, secondCertificate]
      (.str "hidden")).fields.Comparable := comparable_listening (by simp) _
  have hordered : (listening [firstCertificate, secondCertificate] .null).fields.Comparable :=
    comparable_listening (by simp) _
  have hmissing : (listening [firstCertificate] .null).fields.Comparable :=
    comparable_listening (by simp) _
  have hnumber := comparable_desiring (.int 1)
  have hflag := comparable_desiring (.bool true)
  have hundrifted := (drifts_eq_nil_iff_agree hshuffled hnumber).mpr
    (agree_listening (by simp [or_comm]) (.refl _) _)
  refine ⟨hundrifted, (drifts_exact hshuffled hnumber).2 hordered hflag hundrifted ?_ ?_, ?_⟩
  · exact (drifts_eq_nil_iff_agree hshuffled hflag).mpr
      (agree_listening (by simp [or_comm]) (.number rfl rfl) _)
  · exact (drifts_eq_nil_iff_agree hordered hnumber).mpr (agree_listening (by simp) (.refl _) _)
  · obtain ⟨drifts, hdrifts, -, hiff⟩ := (drifts_exact hmissing hnumber).1
    refine ⟨drifts, hdrifts, fun drift => (hiff drift).trans ⟨fun h => ?_, ?_⟩⟩
    · cases h with
      | port h => exact absurd (.refl _) h
      | protocol h => exact absurd rfl h
      | certificates _ => rfl
      | sslPolicy h => exact absurd (.refl _) h
      | defaultActions h => exact absurd (agree_signedIn .null .null) h
    · rintro rfl
      refine .certificates ⟨secondCertificate, ?_⟩
      simp [listening, desiring, firstCertificate, secondCertificate]

end Listener

end AlbListener

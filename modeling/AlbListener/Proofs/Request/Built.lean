import AlbListener.Proofs.Ingress.Contents
import AlbListener.Proofs.Json.RoundTrip
import AlbListener.Proofs.Numeral
import AlbListener.Proofs.Request.Failures

/-!
# What the desired listener is made of

A desired listener has exactly one default action, and it is one that a listener can be given
(`Action.Givable`). Certificate and TLS policy are what the annotations say of them, and belong to
HTTPS only (`Request.Built`). From such parts a config is always made, so none of them is ever
refused. What is refused in working them out is an integer of too many digits, in the document of
an action or as a port, and nothing else (`Request.Refuses`).

Results:
* `givable_of_resolveActions`: the default action can be given to a listener.
* `exists_make`: the parts that are worked out make a config.
* `buildFailure_of_build`: how working out the desired listener fails.
* `built_or_buildFailure`: every request has such a config or such a failure.
* `build_refuses_digits`: an integer in an annotation that is refused.
-/

namespace AlbListener

/-- An action that a listener can be given: it is expressed, and forwards only to a target group
    that counts as given. -/
inductive Action.Givable : Action → Prop
  | forward {arn : Json} (h : arn.isTruthy = true) : Givable (.forward arn)
  | fixedResponse (statusCode contentType messageBody : Json) :
      Givable (.fixedResponse statusCode contentType messageBody)
  | redirect (statusCode protocol port host path query : Json) :
      Givable (.redirect statusCode protocol port host path query)
  | authenticate (provider : Provider) (settings : List (String × Json)) (secret : Json) :
      Givable (.authenticate provider settings secret)

theorem Action.Managed.givable {a : Action} (h : a.Managed) : a.Givable := by
  cases h with
  | forward ht _ => exact .forward ht
  | fixedResponse => exact .fixedResponse ..
  | redirect => exact .redirect ..
  | authenticate => exact .authenticate ..

namespace Request

variable {request : Request} {limits : Limits}

/-! ## Actions -/

theorem isTruthy_of_targetGroup {groups : TargetGroups} {backend : Backend} {arn : Json}
    (h : targetGroup groups backend = .ok arn) : arn.isTruthy = true := by
  unfold targetGroup at h
  split at h
  · cases h
  · split at h
    · split_ifs at h with htruthy
      cases h
      exact htruthy
    · cases h

theorem givable_of_resolveActions {backend? : Option Backend} {annotations : Annotations}
    {groups : TargetGroups} {actions : List Action}
    (h : resolveActions backend? annotations groups limits = .ok actions) :
    ∃ a, actions = [a] ∧ a.Givable := by
  obtain ⟨a, rfl, ⟨service, ha⟩ | ⟨backend, arn, harn, rfl⟩⟩ := of_resolveActions h
  · exact ⟨a, rfl, (Annotations.managed_of_action ha).givable⟩
  · exact ⟨_, rfl, .forward (isTruthy_of_targetGroup harn)⟩

/-! ## Certificates and policy -/

theorem certificates_of_http (h : request.port.scheme = .http) : request.certificates = .ok [] := by
  rw [Request.certificates, h]

theorem sslPolicy_of_http (h : request.port.scheme = .http) : request.sslPolicy = .ok .null := by
  rw [Request.sslPolicy, h]

/-- The certificate of an HTTPS listener is the one that the annotations say. -/
theorem says_of_certificates {certificates : List Certificate} (hs : request.port.scheme = .https)
    (h : request.certificates = .ok certificates) :
    ∃ arn?, request.annotations.Says "certificate-arn" arn? ∧
      certificates = (arn?.map fun arn => ⟨.str arn, .bool true⟩).toList := by
  rw [Request.certificates, hs] at h
  obtain ⟨arn?, harn, h⟩ := bind_eq_ok_iff.mp h
  refine ⟨arn?, Annotations.says_of_lookup harn, ?_⟩
  cases arn? <;> exact (Except.ok.inj h).symm

/-- The TLS policy of an HTTPS listener is the one that the annotations say. -/
theorem says_of_sslPolicy {policy : Json} (hs : request.port.scheme = .https)
    (h : request.sslPolicy = .ok policy) :
    ∃ policy?, request.annotations.Says "ssl-policy" policy? ∧ policy = Json.ofText? policy? := by
  rw [Request.sslPolicy, hs] at h
  obtain ⟨policy?, hpolicy, h⟩ := bind_eq_ok_iff.mp h
  exact ⟨policy?, Annotations.says_of_lookup hpolicy, (Except.ok.inj h).symm⟩

/-- There is at most one certificate. -/
theorem length_certificates_le {certificates : List Certificate}
    (h : request.certificates = .ok certificates) : certificates.length ≤ 1 := by
  cases hs : request.port.scheme with
  | http =>
    cases (certificates_of_http hs).symm.trans h
    exact Nat.zero_le _
  | https =>
    obtain ⟨arn?, -, rfl⟩ := says_of_certificates hs h
    cases arn? <;> simp

/-! ## The config -/

/-- The config of a request: one action that can be given, the port and the protocol of the request,
    and certificate and TLS policy as the annotations say them, for HTTPS only. -/
structure Built (request : Request) (config : ListenerConfig) : Prop where
  action : ∃ a, config.defaultActions = [a] ∧ a.Givable
  port : config.port = request.port.port
  protocol : config.protocol = request.port.scheme
  http : request.port.scheme = .http → config.certificates = [] ∧ config.sslPolicy = .null
  certificate : request.port.scheme = .https → ∃ arn?,
    request.annotations.Says "certificate-arn" arn? ∧ (∀ arn ∈ arn?, Text.Trimmed arn) ∧
      config.certificates = (arn?.map fun arn => ⟨.str arn, .bool true⟩).toList
  policy : request.port.scheme = .https → ∃ policy?,
    request.annotations.Says "ssl-policy" policy? ∧ (∀ policy ∈ policy?, Text.Trimmed policy) ∧
      config.sslPolicy = Json.ofText? policy?

theorem built_of_build {config : ListenerConfig} (h : request.build limits = .ok config) :
    request.Built config := by
  have hdesires := desires_of_build h
  refine ⟨givable_of_resolveActions hdesires.actions, hdesires.port, hdesires.protocol,
    fun hs => ?_, fun hs => ?_, fun hs => ?_⟩
  · exact ⟨Except.ok.inj (hdesires.certificates.symm.trans (certificates_of_http hs)),
      Except.ok.inj (hdesires.sslPolicy.symm.trans (sslPolicy_of_http hs))⟩
  · obtain ⟨arn?, hsaid, harn⟩ := says_of_certificates hs hdesires.certificates
    exact ⟨arn?, hsaid, fun arn hm => (hm ▸ hsaid).trimmed, harn⟩
  · obtain ⟨policy?, hsaid, hpolicy⟩ := says_of_sslPolicy hs hdesires.sslPolicy
    exact ⟨policy?, hsaid, fun policy hm => (hm ▸ hsaid).trimmed, hpolicy⟩

/-- From the parts that are worked out a config is made. -/
theorem exists_make {certificates : List Certificate} {actions : List Action}
    (hcertificates : request.certificates = .ok certificates)
    (hactions : resolveActions request.ingress.backend request.annotations request.targetGroups
      limits = .ok actions) (port : Json) (protocol : Protocol) (policy : Json) :
    ∃ config, ListenerConfig.make port protocol actions policy certificates = .ok config := by
  obtain ⟨a, rfl, -⟩ := givable_of_resolveActions hactions
  have hone : (certificates.filter (·.isDefault.isTruthy)).length ≤ 1 :=
    (List.length_filter_le _ _).trans (length_certificates_le hcertificates)
  exact ⟨_, ListenerConfig.make_eq_ok (List.cons_ne_nil _ _) hone⟩

/-! ## Failures -/

/-- How working out the desired listener fails: its default action cannot be resolved, which is
    reported in the stage of building, a document is of the wrong shape, an integer has too many
    digits, or a document is nested too deep. -/
inductive BuildFailure : Failure → Prop
  | action (service : Json) (problem : AnnotationProblem) :
      BuildFailure (.reconcile (.action service problem) (.str "build"))
  | backend (service port : Json) :
      BuildFailure (.reconcile (.backend service port) (.str "build"))
  | shape {fault : Fault} (h : fault.isInvalid = false) : BuildFailure (.fault fault)
  | digits (limit count : ℕ) : BuildFailure (.fault (.invalid (.tooManyDigits limit count)))
  | port (limit : ℕ) : BuildFailure (.fault (.invalid (.longInteger limit)))
  | depth (message : String) : BuildFailure (.runtime message)

theorem buildFailure_of_lookup {annotations : Annotations} {name : String} {fault : Fault}
    (h : annotations.lookup name = .error fault) : BuildFailure (.fault fault) := by
  unfold Annotations.lookup at h
  split at h <;> cases h
  exact .shape rfl

theorem buildFailure_of_escapes {text : String} {f : Failure}
    (h : Annotations.Escapes limits text f) : BuildFailure (inStage buildStage f) := by
  cases h with
  | @excess e h hx =>
    rcases e.asFailure_cases hx with ⟨limit, count, -, hf⟩ | ⟨_, -, hf⟩
    · rw [hf]
      exact .digits limit count
    · rw [hf]
      exact .depth _
  | shape _ _ hi => exact .shape hi
  | depth => exact .depth _

theorem buildFailure_of_action {annotations : Annotations} {service : Json} {failure : Failure}
    (h : annotations.action service limits = .error failure) :
    BuildFailure (inStage buildStage failure) := by
  unfold Annotations.action at h
  split_ifs at h
  split at h
  · rename_i fault hlookup
    cases h
    exact buildFailure_of_lookup hlookup
  · cases h
    exact .action ..
  · rename_i text _
    rcases Annotations.parseAction_cases service text limits with
      ⟨a, ha⟩ | ⟨problem, hp⟩ | ⟨f, hf⟩
    · cases ha.symm.trans h
    · cases hp.symm.trans h
      exact .action ..
    · cases (Annotations.parseAction_of_escapes hf service).symm.trans h
      exact buildFailure_of_escapes hf

theorem buildFailure_of_targetGroup {groups : TargetGroups} {backend : Backend}
    {failure : Failure} (h : targetGroup groups backend = .error failure) :
    BuildFailure (inStage buildStage failure) := by
  unfold targetGroup at h
  split at h
  · rename_i fault hkey
    cases h
    unfold Backend.checkKey at hkey
    split_ifs at hkey <;> cases hkey <;> exact .shape rfl
  · split at h
    · split_ifs at h
      cases h
      exact .backend ..
    · cases h
      exact .backend ..

theorem buildFailure_of_resolveActions {backend? : Option Backend} {annotations : Annotations}
    {groups : TargetGroups} {failure : Failure}
    (h : resolveActions backend? annotations groups limits = .error failure) :
    BuildFailure (inStage buildStage failure) := by
  rcases bind_eq_error_iff.mp h with h | ⟨⟨⟩, -, h⟩
  · obtain ⟨fault, hfault, rfl⟩ := mapError_eq_error_iff.mp h
    rcases Backend.checkPort_cases limits (backend?.getD notFoundBackend).servicePort with
      hport | ⟨n, limit, -, -, hport⟩
    · cases hport.symm.trans hfault
    · cases hport.symm.trans hfault
      exact .port limit
  · split_ifs at h
    · rcases bind_eq_error_iff.mp h with h | ⟨_, -, ⟨⟩⟩
      exact buildFailure_of_action h
    · rcases bind_eq_error_iff.mp h with h | ⟨_, -, ⟨⟩⟩
      exact buildFailure_of_targetGroup h

theorem buildFailure_of_certificates {fault : Fault} (h : request.certificates = .error fault) :
    BuildFailure (.fault fault) := by
  unfold Request.certificates at h
  split at h
  · cases h
  · rcases bind_eq_error_iff.mp h with h | ⟨arn?, -, h⟩
    · exact buildFailure_of_lookup h
    · cases arn? <;> cases h

theorem buildFailure_of_sslPolicy {fault : Fault} (h : request.sslPolicy = .error fault) :
    BuildFailure (.fault fault) := by
  unfold Request.sslPolicy at h
  split at h
  · cases h
  · rcases bind_eq_error_iff.mp h with h | ⟨_, -, ⟨⟩⟩
    exact buildFailure_of_lookup h

theorem buildFailure_of_build {failure : Failure} (h : request.build limits = .error failure) :
    BuildFailure failure := by
  rcases bind_eq_error_iff.mp h with h | ⟨certificates, hcertificates, h⟩
  · obtain ⟨fault, hfault, rfl⟩ := mapError_eq_error_iff.mp h
    exact buildFailure_of_certificates hfault
  rcases bind_eq_error_iff.mp h with h | ⟨policy, -, h⟩
  · obtain ⟨fault, hfault, rfl⟩ := mapError_eq_error_iff.mp h
    exact buildFailure_of_sslPolicy hfault
  rcases bind_eq_error_iff.mp h with h | ⟨actions, hactions, h⟩
  · obtain ⟨failure, hfailure, rfl⟩ := mapError_eq_error_iff.mp h
    exact buildFailure_of_resolveActions hfailure
  · -- the parts make a config, so the last step does not fail
    rw [reading_eq_ok_iff] at hcertificates
    obtain ⟨config, hmake⟩ := exists_make hcertificates (mapError_eq_ok_iff.mp hactions)
      request.port.port request.port.scheme policy
    rw [hmake] at h
    cases h

/-! ## Values that are refused -/

/-- The backend of a request has a port that cannot be written out, or refers to an action in whose
    document the reader comes to an integer of too many digits. -/
inductive Refuses (request : Request) (limits : Limits) : Prop
  | port {backend : Backend} {n : Int} {limit : ℕ} (hb : request.ingress.backend = some backend)
      (hp : backend.servicePort = .int n) (hn : limits.exceededBy? n = some limit)
  | digits {backend : Backend} {service text : String} {e : Json.ReadError} {limit count : ℕ}
      (hb : request.ingress.backend = some backend)
      (hr : Backend.refersToAction backend.servicePort = true)
      (hs : backend.serviceName = .str service) (hne : service ≠ Annotations.notFoundService)
      (hl : request.annotations.lookup ("actions." ++ service) = .ok (some text))
      (he : Json.readWithin limits text = .error e) (hd : e.problem = .tooManyDigits limit count)

/-- A value is refused exactly if such an integer stands in the way. -/
theorem refuses_iff (ht : request.annotations.Textual)
    (hb : ∀ backend, request.ingress.backend = some backend → backend.Typed) :
    (∃ reason, request.build limits = .error (.fault (.invalid reason))) ↔
      request.Refuses limits := by
  constructor
  · rintro ⟨reason, h⟩
    rcases resolveActions_cases ht hb limits with ⟨a, ha⟩ | ⟨cause, hr, -⟩ | ⟨f, hf⟩
    · obtain ⟨config, hconfig⟩ := build_of_actions ht ha
      cases hconfig.symm.trans h
    · cases (build_of_error ht hr).symm.trans h
    · have hbuild := build_of_error ht (resolveActions_of_escapes hf)
      rw [inStage_of_escapes hf] at hbuild
      cases hbuild.symm.trans h
      generalize he : Failure.fault (.invalid reason) = f at hf
      cases hf with
      | port hb hp hn => exact .port hb hp hn
      | action hb hr hs hne hl hf =>
        subst he
        obtain ⟨e, limit, count, he, hd, -⟩ := Annotations.escapes_invalid_iff.mp hf
        exact .digits hb hr hs hne hl he hd
  · intro h
    have hescapes : ∃ reason, request.Escapes limits (.fault (.invalid reason)) := by
      rcases h with ⟨hb, hp, hn⟩ | ⟨hb, hr, hs, hne, hl, he, hd⟩
      · exact ⟨_, .port hb hp hn⟩
      · exact ⟨_, .action hb hr hs hne hl
          (Annotations.escapes_invalid_iff.mpr ⟨_, _, _, he, hd, rfl⟩)⟩
    obtain ⟨reason, hf⟩ := hescapes
    exact ⟨reason, build_of_error ht (resolveActions_of_escapes hf)⟩

/-- The desired listener is a config of parts as they should be, or cannot be worked out because its
    default action cannot be resolved, because a document is of the wrong shape, or because it
    exceeds a limit. The parts that are worked out are never refused. In a request of the declared
    sorts neither is any other value or text but an integer of too many digits. -/
theorem built_or_buildFailure (request : Request) (limits : Limits) :
    ((∃ config, request.build limits = .ok config ∧ request.Built config) ∨
      ∃ failure, request.build limits = .error failure ∧ BuildFailure failure) ∧
    (∀ certificates policy actions, request.certificates = .ok certificates →
      request.sslPolicy = .ok policy →
      resolveActions request.ingress.backend request.annotations request.targetGroups limits =
        .ok actions →
      ∃ config, ListenerConfig.make request.port.port request.port.scheme actions policy
        certificates = .ok config) ∧
    (∀ e, request.build limits ≠ .error (.unreadable e)) ∧
    (request.annotations.Textual →
      (∀ backend, request.ingress.backend = some backend → backend.Typed) →
      ((∃ reason, request.build limits = .error (.fault (.invalid reason))) ↔
        request.Refuses limits)) := by
  refine ⟨?_, fun certificates policy actions hc _ ha => exists_make hc ha _ _ policy,
    fun e h => ?_, refuses_iff⟩
  · cases h : request.build limits with
    | ok config => exact .inl ⟨config, rfl, built_of_build h⟩
    | error failure => exact .inr ⟨failure, rfl, buildFailure_of_build h⟩
  · cases buildFailure_of_build h

/-- A text that is no document is not refused, but reported. -/
theorem built_or_buildFailure_unreadable :
    (annotated "[").Typed ∧
      ¬∃ reason, (annotated "[").build = .error (.fault (.invalid reason)) := by
  have ht := typed_annotated "["
  refine ⟨ht, mt ((built_or_buildFailure _ .standard).2.2.2 ht.annotations ht.backend).mp ?_⟩
  rintro (⟨hbackend, hport, -⟩ | ⟨hbackend, -, hservice, -, hlookup, hread, hdigits⟩)
  · cases hbackend
    cases hport
  · cases hbackend
    cases hservice
    have htext : (annotated "[").annotations.lookup ("actions." ++ "login") = .ok (some "[") := rfl
    cases htext.symm.trans hlookup
    have hvalue : Json.readWithin .standard "[" = .error ⟨.noValue, 1, 2, 1⟩ := rfl
    cases hvalue.symm.trans hread
    cases hdigits

/-- An integer of one digit too many. -/
def longInteger : Int := ((10 ^ Text.digitLimit : ℕ) : Int)

theorem exceededBy?_longInteger :
    Limits.standard.exceededBy? longInteger = some Text.digitLimit := by
  have hlt : Text.digitLimit < Text.digitCount longInteger := Text.lt_digitCount (Nat.le_refl _)
  rw [Limits.exceededBy?, Limits.standard, Option.filter_some, if_pos (decide_eq_true hlt)]

theorem trimmed_longInteger : Text.Trimmed (Json.int longInteger).render := by
  have hchars : (Json.int longInteger).render.toList = Text.intChars longInteger :=
    String.toList_ofList
  obtain ⟨c, more, hcons, -⟩ := Json.exists_intChars longInteger
  refine Text.trimmed_of_forall (by rw [hchars, hcons]; exact List.cons_ne_nil _ _) fun c hc => ?_
  exact Text.isBlank_of_mem_intChars (hchars ▸ hc)

/-- Such an integer in an annotation is refused as a value and not reported. -/
theorem build_refuses_digits :
    (annotated (Json.int longInteger).render).Typed ∧
      ∃ reason, (annotated (Json.int longInteger).render).build =
        .error (.fault (.invalid reason)) := by
  have ht := typed_annotated (Json.int longInteger).render
  have hlookup : (annotated (Json.int longInteger).render).annotations.lookup "actions.login" =
      .ok (some (Json.int longInteger).render) := by
    refine Annotations.lookup_eq_ok_iff.mpr (.text "" _ "" ?_ Text.blank_empty Text.blank_empty
      trimmed_longInteger)
    rw [String.empty_append, String.append_empty]
    rfl
  obtain ⟨e, hread, hproblem⟩ := Json.readWithin_render_int exceededBy?_longInteger
  exact ⟨ht, (refuses_iff ht.annotations ht.backend).mpr
    (.digits rfl rfl rfl (by decide) hlookup hread hproblem)⟩

end Request

end AlbListener

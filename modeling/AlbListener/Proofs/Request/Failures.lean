import AlbListener.Proofs.Ingress.Escapes
import AlbListener.Proofs.Json.Scalars
import AlbListener.Proofs.Request.Desired

/-!
# How working out the desired state fails

The desired state of a request of the declared sorts is worked out, or the reconciler reports
why not, with two exceptions. An annotation may hold an action document that escapes the report,
and a port may be an integer of too many digits to be written out. Such a failure is none of the
reconciler's.

Results:
* `action_reports_iff`: when resolving the action of a service is reported.
* `resolveActions_cases`, `resolveActions_of_escapes`: how resolving the default action ends.
* `build_reports_iff`: when working out the desired state is reported.
-/

namespace AlbListener

variable {limits : Limits}

namespace Backend

theorem checkPort_cases (limits : Limits) (port : Json) :
    checkPort limits port = .ok () ∨ ∃ n limit, port = .int n ∧ limits.exceededBy? n = some limit ∧
      checkPort limits port = .error (.invalid (.longInteger limit)) := by
  cases port with
  | int n =>
    cases hn : limits.exceededBy? n with
    | none => exact .inl (by rw [checkPort, hn])
    | some limit => exact .inr ⟨n, limit, rfl, hn, by rw [checkPort, hn]⟩
  | _ => exact .inl rfl

/-- No integer refers to an annotation. -/
theorem refersToAction_int (n : Int) : refersToAction (.int n) = false := by
  obtain ⟨c, more, hchars, hc⟩ := Json.exists_intChars n
  have hu : c ≠ 'u' := Json.ne_of_startsNumber hc (by decide)
  rw [refersToAction, beq_eq_false_iff_ne]
  intro h
  have hlist := congrArg String.toList h
  rw [show Json.display (.int n) = String.ofList (Text.intChars n) from rfl, String.toList_ofList,
    hchars] at hlist
  cases hlist
  exact hu rfl

theorem checkPort_of_refersToAction {port : Json} (h : refersToAction port = true) :
    checkPort limits port = .ok () := by
  rcases checkPort_cases limits port with hp | ⟨n, limit, rfl, -⟩
  · exact hp
  · rw [refersToAction_int] at h
    cases h

end Backend

namespace Annotations

/-- The annotation for a service holds an action document that is neither read nor reported. -/
def BreaksAt (annotations : Annotations) (service : String) (limits : Limits) : Prop :=
  service ≠ notFoundService ∧ ∃ text,
    annotations.lookup ("actions." ++ service) = .ok (some text) ∧ Unresolvable limits text

theorem action_of_escapes {annotations : Annotations} {service text : String} {f : Failure}
    (hne : service ≠ notFoundService)
    (hl : annotations.lookup ("actions." ++ service) = .ok (some text))
    (h : Escapes limits text f) : annotations.action (.str service) limits = .error f := by
  rw [action, if_neg (mt Json.equals_str_iff.mp hne), Json.display_str, hl]
  exact parseAction_of_escapes h _

/-- Resolving the action of a service gives one, is reported, or fails as its document does. -/
theorem action_cases {annotations : Annotations} (ht : annotations.Textual) (service : String)
    (limits : Limits) :
    (∃ a, annotations.action (.str service) limits = .ok a) ∨
    (∃ problem, annotations.action (.str service) limits =
      .error (failure (.str service) problem)) ∨
    ∃ text f, service ≠ notFoundService ∧
      annotations.lookup ("actions." ++ service) = .ok (some text) ∧ Escapes limits text f := by
  by_cases hne : service = notFoundService
  · exact .inl ⟨_, if_pos (Json.equals_str_iff.mpr hne)⟩
  obtain ⟨found, hfound⟩ := exists_lookup ht ("actions." ++ service)
  rw [action, if_neg (mt Json.equals_str_iff.mp hne), Json.display_str, hfound]
  cases found with
  | none => exact .inr (.inl ⟨_, rfl⟩)
  | some text =>
    rcases parseAction_cases (.str service) text limits with h | h | ⟨f, h⟩
    · exact .inl h
    · exact .inr (.inl h)
    · exact .inr (.inr ⟨text, f, hne, rfl, h⟩)

/-- Resolving the action of a service is reported unless it breaks off. -/
theorem action_reports_iff {annotations : Annotations} (ht : annotations.Textual)
    {service : String} :
    ((∃ a, annotations.action (.str service) limits = .ok a) ∨
      ∃ problem, annotations.action (.str service) limits =
        .error (failure (.str service) problem)) ↔ ¬annotations.BreaksAt service limits := by
  constructor
  · rintro h ⟨hne, text, hl, hu⟩
    obtain ⟨f, hf⟩ := escapes_iff.mpr hu
    have haction := action_of_escapes hne hl hf
    rcases h with ⟨_, h⟩ | ⟨_, h⟩
    · cases haction.symm.trans h
    · cases haction.symm.trans h
      exact hf.ne_reconcile _ _ rfl
  · intro hbreaks
    rcases action_cases ht service limits with h | h | ⟨text, f, hne, hl, hf⟩
    · exact .inl h
    · exact .inr h
    · exact absurd ⟨hne, text, hl, escapes_iff.mp ⟨f, hf⟩⟩ hbreaks

end Annotations

namespace Request

variable {request : Request}

/-- The backend of a request has a port that cannot be written out, or refers to an action whose
    document is neither read nor reported. -/
inductive BreaksOff (request : Request) (limits : Limits) : Prop
  | port {backend : Backend} {n : Int} {limit : ℕ} (hb : request.ingress.backend = some backend)
      (hp : backend.servicePort = .int n) (hn : limits.exceededBy? n = some limit)
  | action {backend : Backend} {service : String} (hb : request.ingress.backend = some backend)
      (hr : Backend.refersToAction backend.servicePort = true)
      (hs : backend.serviceName = .str service)
      (h : request.annotations.BreaksAt service limits)

/-- How resolving the default action of a request fails without a report. -/
inductive Escapes (request : Request) (limits : Limits) : Failure → Prop
  | port {backend : Backend} {n : Int} {limit : ℕ} (hb : request.ingress.backend = some backend)
      (hp : backend.servicePort = .int n) (hn : limits.exceededBy? n = some limit) :
      Escapes request limits (.fault (.invalid (.longInteger limit)))
  | action {backend : Backend} {service text : String} {f : Failure}
      (hb : request.ingress.backend = some backend)
      (hr : Backend.refersToAction backend.servicePort = true)
      (hs : backend.serviceName = .str service) (hne : service ≠ Annotations.notFoundService)
      (hl : request.annotations.lookup ("actions." ++ service) = .ok (some text))
      (h : Annotations.Escapes limits text f) : Escapes request limits f

theorem escapes_iff : (∃ f, request.Escapes limits f) ↔ request.BreaksOff limits := by
  constructor
  · rintro ⟨f, ⟨hb, hp, hn⟩ | ⟨hb, hr, hs, hne, hl, h⟩⟩
    · exact .port hb hp hn
    · exact .action hb hr hs ⟨hne, _, hl, Annotations.escapes_iff.mp ⟨f, h⟩⟩
  · rintro (⟨hb, hp, hn⟩ | ⟨hb, hr, hs, hne, text, hl, h⟩)
    · exact ⟨_, .port hb hp hn⟩
    · obtain ⟨f, hf⟩ := Annotations.escapes_iff.mpr h
      exact ⟨f, .action hb hr hs hne hl hf⟩

theorem Escapes.fault_or_runtime {f : Failure} (h : request.Escapes limits f) :
    (∃ reason, f = .fault reason) ∨ ∃ message, f = .runtime message := by
  cases h with
  | port => exact .inl ⟨_, rfl⟩
  | action _ _ _ _ _ h => exact h.fault_or_runtime

/-! ## Certificates and policy -/

theorem exists_certificates (ht : request.annotations.Textual) :
    ∃ certificates, request.certificates = .ok certificates ∧ certificates.length ≤ 1 := by
  unfold Request.certificates
  cases request.port.scheme with
  | http => exact ⟨[], rfl, Nat.zero_le _⟩
  | https =>
    obtain ⟨found, hfound⟩ := Annotations.exists_lookup ht "certificate-arn"
    dsimp only
    rw [Annotations.certificateArn, bind_of_eq_ok hfound]
    cases found with
    | none => exact ⟨[], rfl, Nat.zero_le _⟩
    | some arn => exact ⟨[_], rfl, Nat.le_refl _⟩

theorem exists_sslPolicy (ht : request.annotations.Textual) :
    ∃ policy, request.sslPolicy = .ok policy := by
  unfold Request.sslPolicy
  cases request.port.scheme with
  | http => exact ⟨_, rfl⟩
  | https =>
    obtain ⟨found, hfound⟩ := Annotations.exists_lookup ht "ssl-policy"
    dsimp only
    rw [Annotations.sslPolicy, bind_of_eq_ok hfound]
    exact ⟨_, rfl⟩

/-! ## The desired state -/

theorem build_of_actions (ht : request.annotations.Textual) {action : Action}
    (h : resolveActions request.ingress.backend request.annotations request.targetGroups limits =
      .ok [action]) : ∃ config, request.build limits = .ok config := by
  obtain ⟨certificates, hc, hone⟩ := exists_certificates ht
  obtain ⟨policy, hp⟩ := exists_sslPolicy ht
  have hone' : (certificates.filter (·.isDefault.isTruthy)).length ≤ 1 :=
    (List.length_filter_le _ _).trans hone
  unfold build
  rw [bind_of_eq_ok (reading_eq_ok_iff.mpr hc), bind_of_eq_ok (reading_eq_ok_iff.mpr hp),
    bind_of_eq_ok (mapError_eq_ok_iff.mpr h),
    ListenerConfig.make_eq_ok (List.cons_ne_nil _ _) hone']
  exact ⟨_, rfl⟩

theorem build_of_error (ht : request.annotations.Textual) {failure : Failure}
    (h : resolveActions request.ingress.backend request.annotations request.targetGroups limits =
      .error failure) : request.build limits = .error (inStage buildStage failure) := by
  obtain ⟨certificates, hc, -⟩ := exists_certificates ht
  obtain ⟨policy, hp⟩ := exists_sslPolicy ht
  unfold build
  rw [bind_of_eq_ok (reading_eq_ok_iff.mpr hc), bind_of_eq_ok (reading_eq_ok_iff.mpr hp), h]
  rfl

/-- What escapes is how resolving the default action fails. -/
theorem resolveActions_of_escapes {f : Failure} (h : request.Escapes limits f) :
    resolveActions request.ingress.backend request.annotations request.targetGroups limits =
      .error f := by
  cases h with
  | @port backend n limit hb hp hn =>
    have hport : Backend.checkPort limits backend.servicePort =
        .error (.invalid (.longInteger limit)) := by rw [hp, Backend.checkPort, hn]
    rw [hb, resolveActions, Option.getD_some, hport]
    rfl
  | action hb hr hs hne hl h =>
    rw [hb, resolveActions_of_action (Backend.checkPort_of_refersToAction hr) hr, hs,
      Annotations.action_of_escapes hne hl h]
    rfl

theorem inStage_of_escapes {f : Failure} (h : request.Escapes limits f) :
    inStage buildStage f = f := by
  rcases h.fault_or_runtime with ⟨_, rfl⟩ | ⟨_, rfl⟩ <;> rfl

/-- The target group of a backend of the declared sorts is found, or it is reported that there is
    none. -/
theorem targetGroup_cases {backend : Backend} (h : backend.Typed) (groups : TargetGroups) :
    (∃ arn, targetGroup groups backend = .ok arn) ∨ targetGroup groups backend =
      .error (.reconcile (.backend backend.serviceName backend.servicePort) .null) := by
  rw [targetGroup, Backend.checkKey_of_typed h]
  dsimp only
  split
  · split_ifs
    · exact .inl ⟨_, rfl⟩
    · exact .inr rfl
  · exact .inr rfl

/-- Resolving the default action gives one, is reported, or fails without a report. -/
theorem resolveActions_cases (ht : request.annotations.Textual)
    (hb : ∀ backend, request.ingress.backend = some backend → backend.Typed) (limits : Limits) :
    let actions :=
      resolveActions request.ingress.backend request.annotations request.targetGroups limits
    (∃ action, actions = .ok [action]) ∨
    (∃ reason, actions = .error (.reconcile reason .null) ∧
      (reason.kind = .action ∨ reason.kind = .backend)) ∨
    ∃ f, request.Escapes limits f := by
  intro actions
  cases hbackend : request.ingress.backend with
  | none =>
    refine .inl ⟨Annotations.notFoundAction, ?_⟩
    show resolveActions _ _ _ _ = _
    rw [hbackend, resolveActions_none]
  | some backend =>
    have hactions : actions = resolveActions (some backend) request.annotations
      request.targetGroups limits := congrArg (resolveActions · _ _ _) hbackend
    rw [hactions]
    rcases Backend.checkPort_cases limits backend.servicePort with hport | ⟨n, limit, hp, hn, -⟩
    swap
    · exact .inr (.inr ⟨_, .port hbackend hp hn⟩)
    obtain ⟨service, hservice⟩ := (hb backend hbackend).serviceName
    by_cases hr : Backend.refersToAction backend.servicePort = true
    · rw [resolveActions_of_action hport hr, hservice]
      rcases Annotations.action_cases ht service limits with
        ⟨a, ha⟩ | ⟨problem, hp⟩ | ⟨text, f, hne, hl, hf⟩
      · exact .inl ⟨a, by rw [ha]; rfl⟩
      · exact .inr (.inl ⟨_, by rw [hp]; rfl, .inl rfl⟩)
      · exact .inr (.inr ⟨f, .action hbackend hr hservice hne hl hf⟩)
    · rw [resolveActions_of_targetGroup hport (Bool.not_eq_true _ ▸ hr)]
      rcases targetGroup_cases (hb backend hbackend) request.targetGroups with ⟨arn, h⟩ | h
      · exact .inl ⟨_, by rw [h]; rfl⟩
      · exact .inr (.inl ⟨_, by rw [h]; rfl, .inr rfl⟩)

/-- Working out the desired state of a request whose annotations and backend are of the
    declared sorts is reported, in the stage of building, exactly if it does not break off. So
    is resolving the action of any service. -/
theorem build_reports_iff (ht : request.annotations.Textual)
    (hb : ∀ backend, request.ingress.backend = some backend → backend.Typed) (limits : Limits) :
    (((∃ config, request.build limits = .ok config) ∨
      ∃ reason, request.build limits = .error (.reconcile reason (.str buildStage)) ∧
        (reason.kind = .action ∨ reason.kind = .backend)) ↔ ¬request.BreaksOff limits) ∧
    ∀ service, ((∃ action, request.annotations.action (.str service) limits = .ok action) ∨
      ∃ problem, request.annotations.action (.str service) limits =
        .error (Annotations.failure (.str service) problem)) ↔
      ¬request.annotations.BreaksAt service limits := by
  refine ⟨⟨?_, ?_⟩, fun service => Annotations.action_reports_iff ht⟩
  · intro h hbreaks
    obtain ⟨f, hf⟩ := escapes_iff.mpr hbreaks
    have hbuild := build_of_error ht (resolveActions_of_escapes hf)
    rw [inStage_of_escapes hf] at hbuild
    rcases h with ⟨_, h⟩ | ⟨_, h, -⟩
    · cases hbuild.symm.trans h
    · cases hbuild.symm.trans h
      rcases hf.fault_or_runtime with ⟨_, ⟨⟩⟩ | ⟨_, ⟨⟩⟩
  · intro hbreaks
    rcases resolveActions_cases ht hb limits with ⟨a, ha⟩ | ⟨reason, hr, hkind⟩ | hf
    · exact .inl (build_of_actions ht ha)
    · exact .inr ⟨reason, build_of_error ht hr, hkind⟩
    · exact absurd (escapes_iff.mp hf) hbreaks

/-! ## An action that breaks off -/

/-- A request whose default action is defined by an annotation. -/
def annotated (text : String) : Request :=
  { bare with
    ingress := { bare.ingress with backend := some ⟨.str "login", .str "use-annotation"⟩ }
    annotations :=
      { bare.annotations with
        values := [("alb.ingress.kubernetes.io/actions.login", .str text)] } }

theorem typed_annotated (text : String) : (annotated text).Typed where
  loadBalancerArn := typed_bare.loadBalancerArn
  port := typed_bare.port
  annotations := fun entry hm => by
    rw [List.mem_singleton.mp hm]
    exact ⟨_, rfl⟩
  backend := fun backend h => by
    cases h
    exact ⟨⟨_, rfl⟩, .inr ⟨_, rfl⟩⟩
  targetGroups := typed_bare.targetGroups

/-- A blank annotation is reported. -/
theorem build_reports_blank :
    (annotated " ").Typed ∧
    ((∃ config, (annotated " ").build = .ok config) ∨
      ∃ reason, (annotated " ").build = .error (.reconcile reason (.str buildStage)) ∧
        (reason.kind = .action ∨ reason.kind = .backend)) := by
  have ht := typed_annotated " "
  refine ⟨ht, (build_reports_iff ht.annotations ht.backend .standard).1.mpr ?_⟩
  rintro (⟨hbackend, hport, -⟩ | ⟨hbackend, -, hservice, -, text, hlookup, -⟩)
  · cases hbackend
    cases hport
  · cases hbackend
    cases hservice
    have hblank : (annotated " ").annotations.lookup ("actions." ++ "login") = .ok none := rfl
    cases hblank.symm.trans hlookup

/-- Whether a step ends with a fault that is not reported. -/
def isFault {α : Type} : Except Failure α → Bool
  | .error (.fault _) => true
  | _ => false

theorem isFault_iff {α : Type} {step : Except Failure α} :
    isFault step = true ↔ ∃ fault, step = .error (.fault fault) := by
  rcases step with (_ | fault) | value <;> simp [isFault]

/-- A forward whose config is true. -/
def brokenForward : String := "\x7b\"Type\": \"forward\", \"ForwardConfig\": true\x7d"

/-- A forward whose config is no object is not reported. -/
theorem build_breaks_forward :
    (annotated brokenForward).Typed ∧
      ∃ fault, (annotated brokenForward).build = .error (.fault fault) := by
  have h : isFault (annotated brokenForward).build = true := by decide +kernel
  exact ⟨typed_annotated _, isFault_iff.mp h⟩

end Request

end AlbListener

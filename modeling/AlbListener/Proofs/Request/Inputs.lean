import AlbListener.Proofs.Ingress.Contents
import AlbListener.Proofs.Request.Desired
import AlbListener.Proofs.Request.TargetGroups

/-!
# What the desired listener depends on

The desired listener depends on the port and the protocol, on what the annotations say of the
certificate and of the TLS policy if the protocol is HTTPS, and on where the default action comes
from: on nothing if there is no backend or the built-in one, on one annotation if the backend refers
to it, and else on the target group of the backend (`Request.SameInputs`). Each set of annotations
is read under its own prefix.

Results:
* `SameInputs.resolveActions_eq`: requests with the same inputs have the same default action.
* `build_of_sameInputs`: requests with the same inputs ask for the same listener, client secrets
  included, or fail alike.
-/

namespace AlbListener

/-- Annotations that say the same under a name, each with its own prefix. -/
def Annotations.Concur (annotations annotations' : Annotations) (name : String) : Prop :=
  ∃ text?, annotations.Says name text? ∧ annotations'.Says name text?

theorem Annotations.Concur.lookup_eq {annotations annotations' : Annotations} {name : String}
    (h : annotations.Concur annotations' name) :
    annotations.lookup name = annotations'.lookup name := by
  obtain ⟨text?, hsaid, hsaid'⟩ := h
  rw [hsaid.lookup, hsaid'.lookup]

/-- The same listener on another port. -/
def ListenerConfig.onPort (config : ListenerConfig) (port : Json) : ListenerConfig :=
  { config with port }

theorem ListenerConfig.make_onPort (port port' : Json) (protocol : Protocol)
    (actions : List Action) (policy : Json) (certificates : List Certificate) :
    make port' protocol actions policy certificates =
      (make port protocol actions policy certificates).map (·.onPort port') := by
  unfold make
  split_ifs <;> rfl

namespace Request

/-- Requests with the same inputs to what is desired, but for the port. -/
structure SameInputs (request request' : Request) : Prop where
  scheme : request'.port.scheme = request.port.scheme
  backend : request'.ingress.backend = request.ingress.backend
  certificate : request.port.scheme = .https →
    request.annotations.Concur request'.annotations "certificate-arn"
  policy : request.port.scheme = .https →
    request.annotations.Concur request'.annotations "ssl-policy"
  action : ∀ backend ∈ request.ingress.backend, backend.servicePort = .str "use-annotation" →
    backend.serviceName ≠ .str "response-404" →
      request.annotations.Concur request'.annotations ("actions." ++ backend.serviceName.display)
  targetGroup : ∀ backend ∈ request.ingress.backend, backend.servicePort ≠ .str "use-annotation" →
    request'.targetGroups.get? backend = request.targetGroups.get? backend

namespace SameInputs

variable {request request' : Request} (h : request.SameInputs request')

include h

theorem certificates_eq : request'.certificates = request.certificates := by
  unfold Request.certificates
  rw [h.scheme]
  cases hs : request.port.scheme with
  | http => rfl
  | https =>
    dsimp only
    rw [Annotations.certificateArn, Annotations.certificateArn, (h.certificate hs).lookup_eq]

theorem sslPolicy_eq : request'.sslPolicy = request.sslPolicy := by
  unfold Request.sslPolicy
  rw [h.scheme]
  cases hs : request.port.scheme with
  | http => rfl
  | https =>
    dsimp only
    rw [Annotations.sslPolicy, Annotations.sslPolicy, (h.policy hs).lookup_eq]

theorem action_eq {backend : Backend} (hb : backend ∈ request.ingress.backend)
    (hp : backend.servicePort = .str Backend.annotationPort) :
    request'.annotations.action backend.serviceName =
      request.annotations.action backend.serviceName := by
  unfold Annotations.action
  split_ifs with hbuiltin
  · rfl
  · -- only a service that is not the built-in one has its annotation read
    have hservice : backend.serviceName ≠ .str Annotations.notFoundService := by
      intro he
      exact hbuiltin (he ▸ Json.equals_str_iff.mpr rfl)
    rw [(h.action backend hb hp hservice).lookup_eq]

theorem targetGroup_eq {backend : Backend} (hb : backend ∈ request.ingress.backend)
    (hp : backend.servicePort ≠ .str Backend.annotationPort) :
    Request.targetGroup request'.targetGroups backend =
      Request.targetGroup request.targetGroups backend := by
  rw [Request.targetGroup, Request.targetGroup, h.targetGroup backend hb hp]

theorem resolveActions_eq :
    resolveActions request'.ingress.backend request'.annotations request'.targetGroups =
      resolveActions request.ingress.backend request.annotations request.targetGroups := by
  rw [h.backend]
  cases hb : request.ingress.backend with
  | none => rw [resolveActions_none, resolveActions_none]
  | some backend =>
    unfold resolveActions
    rw [Option.getD_some]
    dsimp only
    split_ifs with hp
    · rw [h.action_eq hb (Backend.refersToAction_iff.mp hp)]
    · rw [h.targetGroup_eq hb (mt Backend.refersToAction_iff.mpr hp)]

end SameInputs

/-- A listener is desired on the port of the request. -/
theorem map_onPort_build (request : Request) :
    request.build.map (·.onPort request.port.port) = request.build := by
  cases hb : request.build with
  | error failure => rfl
  | ok config =>
    rw [Except.map, ← (desires_of_build hb).port]
    rfl

/-- Requests with the same inputs ask for the same listener, each on its own port, or fail with the
    same failure: nothing else that they hold has any part in it. -/
theorem build_of_sameInputs {request request' : Request} (h : request.SameInputs request') :
    request'.build = request.build.map (·.onPort request'.port.port) ∧
      (request'.port.port = request.port.port → request'.build = request.build) := by
  have hbuild : request'.build = request.build.map (·.onPort request'.port.port) := by
    unfold build
    rw [h.certificates_eq, h.sslPolicy_eq, h.resolveActions_eq, h.scheme]
    cases request.certificates with
    | error fault => rfl
    | ok certificates =>
      cases request.sslPolicy with
      | error fault => rfl
      | ok policy =>
        cases resolveActions request.ingress.backend request.annotations request.targetGroups with
        | error failure => rfl
        | ok actions =>
          have hmake := ListenerConfig.make_onPort request.port.port request'.port.port
            request.port.scheme actions policy certificates
          simp only [reading, Except.mapError, bind, Except.bind, hmake]
          cases ListenerConfig.make request.port.port request.port.scheme actions policy
            certificates <;> rfl
  refine ⟨hbuild, fun hport => ?_⟩
  rw [hbuild, hport, map_onPort_build]

/-! ## Two requests with the same inputs -/

/-- The document of a login with a secret. -/
def loginText : String :=
  "\x7b\"Type\": \"authenticate-oidc\", \"AuthenticateOidcConfig\": " ++
    "\x7b\"ClientSecret\": \"geheim\"\x7d\x7d"

/-- The backend that refers to the login. -/
def loginBackend : Backend := ⟨.str "login", .str Backend.annotationPort⟩

/-- A request for an HTTPS listener with a login. -/
def plainLogin : Request where
  loadBalancerArn := .str "lb"
  ingress := ⟨.str "web", .str "default", some loginBackend, []⟩
  annotations := ⟨"team", [("team/actions.login", .str loginText), ("team/ssl-policy", .str " "),
    ("team/certificate-arn", .str "arn:cert")]⟩
  port := ⟨.int 443, .https, portInRange_int.mpr (by decide)⟩
  targetGroups := []
  instance? := none

/-- A request with the same inputs in which everything else is other, under another prefix and with
    other blanks around. -/
def richLogin : Request where
  loadBalancerArn := .str "other"
  ingress := ⟨.str "shop", .str "sales", some loginBackend, [.null]⟩
  annotations := ⟨"alb", [("alb/certificate-arn", .str "\u3000arn:cert\n"), ("team/ssl-policy",
    .str "ELBSecurityPolicy-2016-08"), ("alb/actions.logout", .str "\x7b"),
    ("alb/actions.login", .str ("\t" ++ loginText ++ " "))]⟩
  port := ⟨.int 443, .https, portInRange_int.mpr (by decide)⟩
  targetGroups := [(loginBackend, .str "arn:tg")]
  instance? := some ⟨.str "arn", 443, .http, [], .null, [], .str "other"⟩

theorem build_of_sameInputs_login :
    plainLogin.SameInputs richLogin ∧ richLogin.build = plainLogin.build := by
  have hcertificate : plainLogin.annotations.Concur richLogin.annotations "certificate-arn" := by
    have hc : Text.Trimmed "arn:cert" := ⟨by decide, by decide, by decide⟩
    exact ⟨_, .text "" "arn:cert" "" rfl (by decide) (by decide) hc,
      .text "\u3000" "arn:cert" "\n" rfl (by decide) (by decide) hc⟩
  have hpolicy : plainLogin.annotations.Concur richLogin.annotations "ssl-policy" :=
    ⟨none, .blank (s := " ") rfl (by decide), .missing rfl⟩
  have haction : plainLogin.annotations.Concur richLogin.annotations "actions.login" := by
    have hc : Text.Trimmed loginText := ⟨by decide, by decide, by decide⟩
    exact ⟨_, .text "" loginText "" rfl (by decide) (by decide) hc,
      .text "\t" loginText " " rfl (by decide) (by decide) hc⟩
  have h : plainLogin.SameInputs richLogin := by
    refine ⟨rfl, rfl, fun _ => hcertificate, fun _ => hpolicy, ?_, ?_⟩
    · rintro _ ⟨⟩ - -
      exact haction
    · rintro _ ⟨⟩ hp
      exact absurd rfl hp
  exact ⟨h, (build_of_sameInputs h).2 rfl⟩

end Request

end AlbListener

import AlbListener.Proofs.Ingress.Annotations
import AlbListener.Proofs.Ingress.Escapes
import AlbListener.Proofs.Request.Desired
import AlbListener.Proofs.Secret.Document
import AlbListener.Proofs.Secret.Listener
import AlbListener.Proofs.Secret.Run

/-!
# Requests with other client secrets

An annotation that defines an action holds its document as a text. Two requests are twins if they
are the same but for texts of such annotations, and if these describe twin actions. Twin documents
are loaded as twin requests, in whatever format they are written, and what is built of twin requests
is the same but for client secrets.

Results:
* `Annotations.Twin.action`: twin annotations define twin actions.
* `Request.Twin.build`: the desired listeners of twin requests.
* `Request.DocumentTwin.report`: the form of twin documents is refused for the same reasons.
* `Request.load_twin`: twin documents are loaded alike.
-/

namespace AlbListener

open Entries (get?)

/-! ## Annotations -/

namespace Annotations

/-- Texts of documents that are the same but for client secrets, or that exceed the same limit. -/
inductive ContentTwin (text text' : String) : Prop
  | read {document document' : Json} (hread : Json.readWithin .standard text = .ok document)
      (hread' : Json.readWithin .standard text' = .ok document')
      (h : Action.DocumentTwin document document') : ContentTwin text text'
  | excess {e e' : Json.ReadError} (hread : Json.readWithin .standard text = .error e)
      (hread' : Json.readWithin .standard text' = .error e')
      (hx : e.problem.isExcess = true) (h : e.problem = e'.problem) : ContentTwin text text'

/-- Names of annotations that define actions. -/
def DefinesAction (keyPrefix name : String) : Prop :=
  ∃ service, name = keyPrefix ++ "/" ++ ("actions." ++ service)

/-- Annotations whose contents are documents that are the same but for client secrets. -/
def ValueTwin (value value' : Json) : Prop :=
  ∃ s s', value = .str s ∧ value' = .str s' ∧ ContentTwin (Text.strip s) (Text.strip s')

/-- Annotations that are the same but for client secrets in the actions that they define. -/
structure Twin (annotations annotations' : Annotations) : Prop where
  keyPrefix : annotations.keyPrefix = annotations'.keyPrefix
  values : MembersTwin (DefinesAction annotations.keyPrefix) ValueTwin annotations.values
    annotations'.values

theorem definesAction_key_iff {annotations : Annotations} {name : String} :
    DefinesAction annotations.keyPrefix (annotations.key name) ↔
      ∃ service, name = "actions." ++ service := by
  refine exists_congr fun service => ?_
  simp only [key, ← String.toList_inj, String.toList_append, List.append_cancel_left_eq]

/-- Twin documents that are written as texts. -/
theorem contentTwin_render {members members' : List (String × Json)}
    (h : Action.DocumentTwin (.obj members) (.obj members'))
    (hfits : (Json.obj members).fits .standard = true)
    (hfits' : (Json.obj members').fits .standard = true) :
    ContentTwin (Text.strip (Json.obj members).render) (Text.strip (Json.obj members').render) := by
  rw [Json.strip_render_obj, Json.strip_render_obj]
  exact .read (Json.readWithin_render_eq hfits) (Json.readWithin_render_eq hfits')
    (h.reread fun _ _ h => h.reread fun _ _ => Action.SecretTwin.reread)

/-- An empty text neither is a document nor exceeds a limit. -/
theorem ContentTwin.ne_empty {text text' : String} (h : ContentTwin text text') :
    text ≠ "" ∧ text' ≠ "" := by
  have hempty {e : Json.ReadError} (hread : Json.readWithin .standard "" = .error e) :
      e.problem.isExcess = false := by
    cases hread
    rfl
  cases h with
  | read hread hread' => constructor <;> rintro rfl <;> [cases hread; cases hread']
  | excess hread hread' hx h =>
    constructor <;> rintro rfl
    · rw [hempty hread] at hx
      cases hx
    · rw [h, hempty hread'] at hx
      cases hx

variable {annotations annotations' : Annotations}

/-- Other annotations are the same. -/
theorem Twin.lookup_eq (h : annotations.Twin annotations') {name : String}
    (hn : ¬ ∃ service, name = "actions." ++ service) :
    annotations.lookup name = annotations'.lookup name := by
  have hkey : annotations.key name = annotations'.key name := by rw [key, key, h.keyPrefix]
  unfold lookup
  rw [h.values.get?_eq (mt definesAction_key_iff.mp hn), hkey]

theorem Twin.lookup_action (h : annotations.Twin annotations') (service : String) :
    Alike Eq (Option.Rel fun text text' => text = text' ∨ ContentTwin text text')
      (annotations.lookup ("actions." ++ service))
      (annotations'.lookup ("actions." ++ service)) := by
  have hkey : annotations.key ("actions." ++ service) =
      annotations'.key ("actions." ++ service) := by rw [key, key, h.keyPrefix]
  have hrefl (found : Option String) :
      Option.Rel (fun text text' => text = text' ∨ ContentTwin text text') found found := by
    cases found with
    | none => exact .none
    | some text => exact .some (.inl rfl)
  have hfound := h.values.get? (annotations.key ("actions." ++ service))
  unfold lookup
  rw [← hkey]
  generalize get? annotations.values _ = found, get? annotations'.values _ = found' at hfound
  cases hfound with
  | none => exact .ok .none
  | some hv =>
    rcases hv with rfl | ⟨-, s, s', rfl, rfl, hc⟩
    · exact .refl (fun _ => rfl) hrefl _
    · obtain ⟨hne, hne'⟩ := hc.ne_empty
      dsimp only
      rw [content?, content?, if_neg hne, if_neg hne']
      exact .ok (.some (.inr hc))

/-- The settings of twin actions are nested alike. -/
theorem checkDepth_twin (limits : Limits) {a a' : Action} (h : a.Twin a') :
    Alike Eq Action.Twin (checkDepth limits a) (checkDepth limits a') := by
  have hdepth : a.depth = a'.depth := by cases h <;> rfl
  unfold checkDepth
  rw [hdepth]
  split_ifs
  · exact .error rfl
  · exact .ok h

theorem parseAction_twin (service : Json) {text text' : String} (h : ContentTwin text text') :
    Alike Eq Action.Twin (parseAction service text) (parseAction service text') := by
  unfold parseAction
  cases h with
  | @excess e e' hread hread' hx h =>
    have hmessage : e.message = e'.message := by
      rw [Json.ReadError.message, Json.ReadError.message, ← h, if_pos hx, if_pos hx]
    have hfailure : e.asFailure = e'.asFailure := by
      rw [Json.ReadError.asFailure, Json.ReadError.asFailure, ← h, hmessage]
      rcases e.asFailure_cases hx with ⟨_, _, hp, -⟩ | ⟨_, hp, -⟩ <;> rw [hp]
    rw [hread, hread']
    exact .error (by rw [readFailure, readFailure, ← h, if_pos hx, if_pos hx, hfailure])
  | @read document document' hread hread' hd =>
    rw [hread, hread']
    cases hd with
    | refl => exact .refl (fun _ => rfl) .refl _
    | @obj ms ms' hmembers =>
      have haction := Action.ofDocument_twin (.obj hmembers)
      dsimp only
      generalize Action.ofDocument (.obj ms) = action,
        Action.ofDocument (.obj ms') = action' at haction
      cases haction with
      | ok ha => exact checkDepth_twin .standard ha
      | error he =>
        subst he
        exact .refl (fun _ => rfl) .refl _

/-- Twin annotations define twin actions, or fail to for the same reason. -/
theorem Twin.action (h : annotations.Twin annotations') (service : Json) :
    Alike Eq Action.Twin (annotations.action service) (annotations'.action service) := by
  have hlookup := h.lookup_action service.display
  unfold Annotations.action
  split_ifs
  · exact .ok (.refl _)
  · generalize annotations.lookup _ = found, annotations'.lookup _ = found' at hlookup
    cases hlookup with
    | error he => exact .error (congrArg Failure.fault he)
    | ok hfound =>
      cases hfound with
      | none => exact .error rfl
      | some htext =>
        rcases htext with rfl | htext
        · exact .refl (fun _ => rfl) .refl _
        · exact parseAction_twin service htext

end Annotations

/-! ## What is built -/

/-- Requests that are the same but for client secrets. -/
structure Request.Twin (request request' : Request) : Prop where
  loadBalancerArn : request.loadBalancerArn = request'.loadBalancerArn
  ingress : request.ingress = request'.ingress
  annotations : request.annotations.Twin request'.annotations
  port : request.port = request'.port
  targetGroups : request.targetGroups = request'.targetGroups
  instance? : Option.Rel Listener.Twin request.instance? request'.instance?

theorem ListenerConfig.make_twin (port : Json) (protocol : Protocol)
    {actions actions' : List Action} (h : List.Forall₂ Action.Twin actions actions')
    (hm : ∀ a ∈ actions, a.isUnmanaged = false) (sslPolicy : Json)
    (certificates : List Certificate) :
    Alike Eq Twin (make port protocol actions sslPolicy certificates)
      (make port protocol actions' sslPolicy certificates) := by
  have hnil : actions = [] ↔ actions' = [] := by cases h <;> simp
  unfold make
  simp only [ne_eq, hnil]
  split_ifs
  · exact .error rfl
  · exact .ok ⟨rfl, rfl, h, rfl, rfl, hm⟩
  · exact .error rfl

namespace Request

variable {request request' : Request}

/-- Twin annotations give twin actions, all of which can be expressed. -/
theorem resolveActions_twin {annotations annotations' : Annotations}
    (h : annotations.Twin annotations') (backend? : Option Backend) (groups : TargetGroups) :
    Alike Eq (fun actions actions' => List.Forall₂ Action.Twin actions actions' ∧
        ∀ a ∈ actions, a.isUnmanaged = false)
      (resolveActions backend? annotations groups)
      (resolveActions backend? annotations' groups) := by
  have htwin : Alike Eq (List.Forall₂ Action.Twin) (resolveActions backend? annotations groups)
      (resolveActions backend? annotations' groups) := by
    unfold resolveActions
    dsimp only
    refine .bind_same _ fun _ => ?_
    split_ifs
    · exact (h.action _).bind fun _ _ ha => .ok (.cons ha .nil)
    · exact .bind_same _ fun arn => .ok (.cons (.refl _) .nil)
  exact htwin.and_left fun _ => expressed_of_resolveActions

theorem Twin.certificates (h : request.Twin request') :
    request.certificates = request'.certificates := by
  unfold Request.certificates Annotations.certificateArn
  rw [h.port, h.annotations.lookup_eq ?_]
  rintro ⟨service, hs⟩
  exact absurd (congrArg (fun s => s.toList.head?) hs) (by simp)

theorem Twin.sslPolicy (h : request.Twin request') : request.sslPolicy = request'.sslPolicy := by
  unfold Request.sslPolicy Annotations.sslPolicy
  rw [h.port, h.annotations.lookup_eq ?_]
  rintro ⟨service, hs⟩
  exact absurd (congrArg (fun s => s.toList.head?) hs) (by simp)

/-- The desired listeners of twin requests are the same but for client secrets, and if there is none
    it is for the same reason. -/
theorem Twin.build (h : request.Twin request') :
    Alike Eq ListenerConfig.Twin request.build request'.build := by
  unfold Request.build
  rw [h.certificates, h.sslPolicy, h.ingress, h.port, h.targetGroups]
  refine .bind_same _ fun certificates => .bind_same _ fun policy => ?_
  refine ((resolveActions_twin h.annotations _ _).mapError _).bind fun actions actions' ha => ?_
  exact (ListenerConfig.make_twin _ _ ha.1 ha.2 _ _).mapError _

/-! ## Documents -/

section Documents

variable {α : Type} [Document α] {keyPrefix : String} {document document' : α}

/-- Annotations in a document whose texts are documents that are the same but for client secrets. -/
def AnnotationTwin (value value' : α) : Prop :=
  ∃ s s', Document.shape value = .text s ∧ Document.shape value' = .text s' ∧
    Annotations.ContentTwin (Text.strip s) (Text.strip s')

/-- Ingresses in a document that are the same but for annotations that define actions. -/
abbrev IngressTwin (keyPrefix : String) : α → α → Prop :=
  Document.TwinAt (· = "annotations")
    (Document.TwinAt (Annotations.DefinesAction keyPrefix) AnnotationTwin)

/-- Documents of requests that are the same but for client secrets in annotations. -/
abbrev DocumentTwin (keyPrefix : String) : α → α → Prop :=
  Document.TwinAt (· = "ingress") (IngressTwin keyPrefix)

theorem AnnotationTwin.check {value value' : α} (h : AnnotationTwin value value') :
    Check.ofForm [.string] value = Check.ofForm [.string] value' := by
  have htext {v : α} {s : String} (hs : Document.shape v = .text s) :
      Check.ofForm [.string] v = [] := by
    have his : Check.isOf v Check.Form.string = true := by
      unfold Check.isOf
      rw [hs]
    exact if_pos (List.any_eq_true.mpr ⟨Check.Form.string, List.mem_singleton_self _, his⟩)
  obtain ⟨s, s', hs, hs', -⟩ := h
  rw [htext hs, htext hs']

theorem IngressTwin.check {value value' : α} (h : IngressTwin keyPrefix value value') :
    Check.ingress value = Check.ingress value' := by
  refine Check.all_congr ?_
  simp only [List.forall_mem_cons]
  refine ⟨Check.ofForm_of_twin h, Check.required_of_twin h _, ?_, ?_, ?_, ?_, nofun⟩
  · exact Check.property_of_twin h fun hn => absurd hn (by decide)
  · exact Check.property_of_twin h fun hn => absurd hn (by decide)
  · refine Check.property_of_twin h fun _ v v' hv => Check.all_congr ?_
    simp only [List.forall_mem_cons]
    exact ⟨Check.ofForm_of_twin hv,
      Check.everyMember_of_twin hv fun _ _ => AnnotationTwin.check, nofun⟩
  · exact Check.property_of_twin h fun hn => absurd hn (by decide)

/-- The form of twin documents is refused for the same reasons. -/
theorem DocumentTwin.report (h : DocumentTwin keyPrefix document document') :
    Check.report Check.request document = Check.report Check.request document' := by
  have hcheck : Check.request document = Check.request document' := by
    refine Check.all_congr ?_
    simp only [List.forall_mem_cons]
    refine ⟨Check.ofForm_of_twin h, Check.required_of_twin h _, ?_, ?_, ?_, ?_, nofun⟩
    · exact Check.property_of_twin h fun hn => absurd hn (by decide)
    · exact Check.property_of_twin h fun _ _ _ => IngressTwin.check
    · exact Check.property_of_twin h fun hn => absurd hn (by decide)
    · exact Check.property_of_twin h fun hn => absurd hn (by decide)
  rw [Check.report, Check.report, hcheck]

/-- Ingresses that are the same but for annotations, as JSON. -/
abbrev IngressJsonTwin (keyPrefix : String) : Json → Json → Prop :=
  Json.TwinAt (· = "annotations")
    (Json.TwinAt (Annotations.DefinesAction keyPrefix) Annotations.ValueTwin)

theorem DocumentTwin.toJson [LawfulDocument α] (h : DocumentTwin keyPrefix document document') :
    Json.TwinAt (· = "ingress") (IngressJsonTwin keyPrefix) (Document.toJson document)
      (Document.toJson document') := by
  refine Document.TwinAt.toJson h fun _ _ h => h.toJson fun _ _ h => h.toJson ?_
  rintro v v' ⟨s, s', hs, hs', hc⟩
  exact ⟨s, s', LawfulDocument.toJson_text hs, LawfulDocument.toJson_text hs', hc⟩

end Documents

/-! ## Loading -/

variable {σ γ : Type} {pick : Effect → Option γ} {S : σ → σ → Prop} {keyPrefix : String}

/-- Collecting target groups does not look at the state. -/
theorem twin_collectGroups (groups : TargetGroups) (entries : List Json) :
    Run.Twin pick S Eq (collectGroups groups entries) (collectGroups groups entries) := by
  induction entries generalizing groups with
  | nil => exact Run.twin_pure rfl
  | cons entry rest ih =>
    unfold collectGroups
    refine (Run.twin_read (.same _)).bind_same fun backend => ?_
    refine (Run.twin_read (.same _)).bind_same fun _ => ?_
    split_ifs
    · exact (Run.twin_log _ _ _).bind_same fun _ =>
        (Run.twin_read (.same _)).bind_same fun arn => ih _
    · exact (Run.twin_read (.same _)).bind_same fun arn => ih _

theorem annotationsOf_twin {value value' : Json}
    (h : Json.TwinAt (Annotations.DefinesAction keyPrefix) Annotations.ValueTwin value value') :
    Alike Eq Annotations.Twin (annotationsOf keyPrefix value) (annotationsOf keyPrefix value') :=
  (h.orElse (fun _ _ => id) (.refl _)).toMembers.bind fun _ _ hvalues => .ok ⟨rfl, hvalues⟩

theorem ingress_of_twin {value value' : Json} (h : IngressJsonTwin keyPrefix value value') :
    Ingress.ofDocument value = Ingress.ofDocument value' := by
  unfold Ingress.ofDocument
  rw [h.getD_eq (show ¬ "spec" = _ by decide), h.member_eq (show ¬ "name" = _ by decide),
    h.getD_eq (show ¬ "namespace" = _ by decide)]

theorem ofDocument_twin {document document' : Json}
    (h : Json.TwinAt (· = "ingress") (IngressJsonTwin keyPrefix) document document')
    {live? live?' : Option Listener} (hl : Option.Rel Listener.Twin live? live?') :
    Run.Twin pick S Twin (ofDocument document keyPrefix live?)
      (ofDocument document' keyPrefix live?') := by
  unfold ofDocument
  rw [h.getD_eq (show ¬ "targetGroups" = _ by decide),
    h.member_eq (show ¬ "loadBalancerArn" = _ by decide), h.member_eq (show ¬ "port" = _ by decide)]
  refine (Run.twin_read (h.member .refl _)).bind fun ingress ingress' hingress => ?_
  refine (Run.twin_read (.same _)).bind_same fun entries => ?_
  refine (twin_collectGroups _ _).bind_same fun groups => Run.twin_read ?_
  rw [ingress_of_twin hingress]
  refine .bind_same _ fun balancer => .bind_same _ fun parsed => ?_
  refine (hingress.getD .refl _ _).bind fun _ _ hvalues => ?_
  refine (annotationsOf_twin hvalues).bind fun annotations annotations' hannotations => ?_
  refine .bind_same _ fun _ => .bind_same _ fun _ => .bind_same _ fun _ => ?_
  refine .bind_same _ fun port => ?_
  exact .ok ⟨rfl, rfl, hannotations, rfl, rfl, hl⟩

/-- Twin documents are loaded as twin requests, or refused for the same reason. -/
theorem load_twin {α : Type} [Document α] [LawfulDocument α] {document document' : α}
    (h : DocumentTwin keyPrefix document document') :
    Run.Twin pick S Twin (load document keyPrefix none) (load document' keyPrefix none) := by
  unfold load
  rw [h.report]
  split
  · exact Run.twin_stop _
  · exact ofDocument_twin h.toJson .none

end Request

end AlbListener

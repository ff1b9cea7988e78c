import AlbListener.Proofs.Action.Spelling
import AlbListener.Proofs.Listener.Drift

/-!
# Descriptions that spell the same listener

Two descriptions spell the same listener if they agree, up to the order of members, on what is only
looked up, if their default actions are interchangeable in order, and if they name the same
certificates (`SpellsAlike`). Drift is found on the same fields of both.

Results:
* `SpellsAlike.describes`: if one description is read, so is the other.
* `fields_of_interchangeable`: drift is found on the same fields.
-/

namespace AlbListener

open Entries (get? put)
open Json (Reordered given)
open AlbListener.Action (Interchangeable PlainDocument ReadAlike SettingsAlike)

/-- Any two failures. -/
def AnyFault (_ _ : Fault) : Prop := True

namespace Alike

variable {ε ε' α α' : Type} {E : ε → ε' → Prop} {R : α → α' → Prop}

theorem symm {E' : ε' → ε → Prop} {R' : α' → α → Prop} {step : Except ε α} {step' : Except ε' α'}
    (h : Alike E R step step') (hE : ∀ e e', E e e' → E' e' e) (hR : ∀ a a', R a a' → R' a' a) :
    Alike E' R' step' step := by
  cases h with
  | ok h => exact .ok (hR _ _ h)
  | error h => exact .error (hE _ _ h)

end Alike

namespace Listener

variable {members members' : List (String × Json)}

/-! ## Documents in order -/

theorem actionsIn_arr (documents : List Json) :
    actionsIn (.arr documents) =
      inOrder documents >>= fun ordered => ordered.mapM Action.ofObserved := by
  rw [actionsIn, Json.orElse_arr_nil, Json.elements]
  rfl

/-- Documents that are read alike and have the same place. -/
inductive DocumentAlike : Json → Json → Prop
  | read {members members' : List (String × Json)}
      (place : Reordered ((get? members "Order").getD (.int 0))
        ((get? members' "Order").getD (.int 0)))
      (h : ReadAlike Eq (fun _ => SettingsAlike) members members') :
      DocumentAlike (.obj members) (.obj members')
  | other {document document' : Json} (h : ∀ members, document ≠ .obj members)
      (h' : ∀ members, document' ≠ .obj members) : DocumentAlike document document'

theorem getD_of_not_obj {value : Json} (h : ∀ members, value ≠ .obj members) (name : String)
    (default : Json) : ∃ fault, value.getD name default = .error fault := by
  cases value with
  | obj members => exact absurd rfl (h members)
  | _ => exact ⟨_, rfl⟩

theorem ofObserved_of_not_obj {value : Json} (h : ∀ members, value ≠ .obj members) :
    ∃ fault, Action.ofObserved value = .error fault := by
  cases value with
  | obj members => exact absurd rfl (h members)
  | _ => exact ⟨_, rfl⟩

theorem DocumentAlike.ofObserved {document document' : Json} (h : DocumentAlike document document') :
    Alike AnyFault Interchangeable (Action.ofObserved document) (Action.ofObserved document') := by
  cases h with
  | read _ h => exact Action.ofObserved_alike h
  | other h h' =>
    obtain ⟨fault, hf⟩ := ofObserved_of_not_obj h
    obtain ⟨fault', hf'⟩ := ofObserved_of_not_obj h'
    rw [hf, hf']
    exact .error trivial

/-- Documents that are alike one by one describe interchangeable actions, in the same order. -/
theorem actionsIn_alike {documents documents' : List Json}
    (h : List.Forall₂ DocumentAlike documents documents') :
    Alike AnyFault (List.Forall₂ Interchangeable) (actionsIn (.arr documents))
      (actionsIn (.arr documents')) := by
  rw [actionsIn_arr, actionsIn_arr]
  refine (inOrder_alike (P := Reordered) h (fun d d' hd => ?_) fun p p' q q' hp hq => ?_).bind
    fun ordered ordered' ho => .mapM ho fun _ _ => DocumentAlike.ofObserved
  · cases hd with
    | read hplace _ =>
      rw [Json.getD_obj, Json.getD_obj]
      exact .ok hplace
    | other h h' =>
      obtain ⟨fault, hf⟩ := getD_of_not_obj h "Order" (.int 0)
      obtain ⟨fault', hf'⟩ := getD_of_not_obj h' "Order" (.int 0)
      rw [hf, hf']
      exact .error trivial
  · rw [hp.less? hq]
    exact .refl (fun _ => trivial) (fun _ => rfl) _

/-! ## Descriptions -/

/-- The members of a description that are only looked up. -/
def plainNames : List String := ["ListenerArn", "Port", "Protocol", "SslPolicy", "LoadBalancerArn"]

/-- Lists that name the same certificates, all of which can be members of a set. -/
structure SameCertificates (certificates certificates' : List Certificate) : Prop where
  same : ∀ c, c ∈ certificates ↔ c ∈ certificates'
  plain : Certificate.AllPlain certificates

/-- Descriptions that spell the same listener. -/
structure SpellsAlike (members members' : List (String × Json)) : Prop where
  plain : ∀ name ∈ plainNames, Option.Rel Reordered (get? members name) (get? members' name)
  actions : Alike AnyFault (List.Forall₂ Interchangeable)
    (actionsIn (given members "DefaultActions")) (actionsIn (given members' "DefaultActions"))
  certificates : Alike AnyFault SameCertificates
    (certificatesIn (given members "Certificates")) (certificatesIn (given members' "Certificates"))

/-- Listeners on which drift is found alike. -/
structure Interchangeable (live live' : Listener) : Prop where
  port : live.port = live'.port
  protocol : live.protocol = live'.protocol
  actions : List.Forall₂ Action.Interchangeable live.defaultActions live'.defaultActions
  sslPolicy : Reordered live.sslPolicy live'.sslPolicy
  certificates : SameCertificates live.certificates live'.certificates

theorem SpellsAlike.symm (h : SpellsAlike members members') : SpellsAlike members' members where
  plain := fun name hm => by
    have hname := h.plain name hm
    generalize get? members name = x, get? members' name = y at hname ⊢
    cases hname with
    | none => exact .none
    | some h => exact .some h.symm
  actions := h.actions.symm (fun _ _ => id) fun _ _ hactions => hactions.flip.imp
    fun _ _ h c hc => (h c hc).symm
  certificates := h.certificates.symm (fun _ _ => id) fun _ _ hc =>
    ⟨fun c => (hc.same c).symm, fun c hm => hc.plain c ((hc.same c).mpr hm)⟩

/-- If one of two descriptions that spell the same listener is read, so is the other. -/
theorem SpellsAlike.describes (h : SpellsAlike members members') {live : Listener}
    (hl : Describes members live) :
    ∃ live', Describes members' live' ∧ live.Interchangeable live' := by
  obtain ⟨actions, hactions, hsame⟩ := h.actions.exists_ok hl.actions
  obtain ⟨certificates, hcertificates, hset⟩ := h.certificates.exists_ok hl.certificates
  have hname {name : String} (hm : name ∈ plainNames) {value : Json}
      (hv : get? members name = some value) :
      ∃ value', get? members' name = some value' ∧ Reordered value value' := by
    have hrel := h.plain name hm
    rw [hv] at hrel
    generalize get? members' name = found at hrel
    cases hrel with
    | some h => exact ⟨_, rfl, h⟩
  obtain ⟨arn, harn, -⟩ := hname (by decide) hl.arn
  obtain ⟨port, hport, hn⟩ := hl.port
  obtain ⟨port', hport', hpp⟩ := hname (by decide) hport
  obtain ⟨protocol, hprotocol, hp⟩ := hl.protocol
  obtain ⟨protocol', hprotocol', hpr⟩ := hname (by decide) hprotocol
  have hplain : protocol = protocol' := by
    refine hpr.eq_of_plain ?_
    cases protocol <;> first | rfl | cases hp
  refine ⟨⟨arn, live.port, live.protocol, actions, given members' "SslPolicy", certificates,
    given members' "LoadBalancerArn"⟩, ⟨hactions, harn, ⟨port', hport', ?_⟩,
    ⟨protocol', hprotocol', ?_⟩, rfl, hcertificates, rfl⟩, ⟨rfl, rfl, hsame, ?_, hset⟩⟩
  · rw [← hpp.toInteger, hn]
  · rw [← hplain, hp]
  · rw [← hl.sslPolicy]
    exact Reordered.rel_getD (h.plain _ (by decide)) (.refl Json.distinct_null)

/-! ## Drift -/

theorem sameAll_of_interchangeable {actions actions' targets : List Action}
    (h : List.Forall₂ Action.Interchangeable actions actions') (ht : ∀ a ∈ targets, a.Managed) :
    Action.sameAll actions targets = Action.sameAll actions' targets := by
  induction h generalizing targets with
  | nil => cases targets <;> rfl
  | cons ha _ ih =>
    cases targets with
    | nil => rfl
    | cons target targets =>
      obtain ⟨hta, hts⟩ := List.forall_mem_cons.mp ht
      rw [Action.sameAll, Action.sameAll, ha target hta, ih hts]

theorem sameSet_of_same {certificates certificates' : List Certificate}
    (h : ∀ c, c ∈ certificates ↔ c ∈ certificates') (targets : List Certificate) :
    Certificate.sameSet certificates targets = Certificate.sameSet certificates' targets := by
  rw [Bool.eq_iff_iff, Certificate.sameSet_eq_true_iff, Certificate.sameSet_eq_true_iff]
  simp only [h]

/-- Drift is found on the same fields of interchangeable listeners. -/
theorem fields_of_interchangeable {live live' : Listener} (h : live.Interchangeable live')
    {config : ListenerConfig} (hc : ∀ a ∈ config.defaultActions, a.Managed) :
    (live'.drifts config).map (List.map Drift.field) =
      (live.drifts config).map (List.map Drift.field) := by
  have hplain' : Certificate.AllPlain live'.certificates := fun c hm =>
    h.certificates.plain c ((h.certificates.same c).mpr hm)
  have hfield (same : Bool) (drift : Drift) :
      (driftUnless same drift).map Drift.field = if same then [] else [drift.field] := by
    cases same <;> rfl
  rw [drifts, drifts, bind_of_eq_ok (Certificate.forM_checkMember_eq_ok_iff.mpr h.certificates.plain),
    bind_of_eq_ok (Certificate.forM_checkMember_eq_ok_iff.mpr hplain')]
  cases config.certificates.forM Certificate.checkMember with
  | error fault => rfl
  | ok _ =>
    refine congrArg Except.ok ?_
    simp only [List.map_append, hfield, Drift.field, h.port, h.protocol,
      sameSet_of_same h.certificates.same, h.sslPolicy.equals,
      sameAll_of_interchangeable h.actions hc]

end Listener

end AlbListener

import AlbListener.Proofs.Action.Reported
import AlbListener.Proofs.Listener.Description

/-!
# Listeners as they are reported

Whatever a provider reports of a listener is read, as long as its parts have the sorts that the
provider gives them (`Reported`). Every action that is reported is read, in the order of their
places, and one that is not known or lacks what it needs is kept as one that cannot be expressed.

Results:
* `Arranged.sortBy`: sorting by place arranges, and keeps the order of those with the same place.
* `ofDocument_of_reported`: a reported listener is read, with one action for each that is reported.
-/

namespace AlbListener

open Entries (get? has)
open Json (given)
open AlbListener.Action (ReportedAction)

/-! ## Arranging by place -/

/-- A list in ascending order of places, in which those with the same place are in the order in
    which they came. -/
structure Arranged {α : Type} (place : α → ℤ) (l arranged : List α) : Prop where
  perm : arranged.Perm l
  ascending : arranged.Pairwise fun a b => place a ≤ place b
  stable : ∀ n, arranged.filter (place · = n) = l.filter (place · = n)

theorem Arranged.sortBy {α : Type} (place : α → ℤ) (l : List α) :
    Arranged place l (sortBy (fun a b => decide (place a ≤ place b)) l) where
  perm := sortBy_perm _ l
  ascending := by
    refine (pairwise_sortBy ?_ ?_ l).imp of_decide_eq_true
    · intro a b
      simpa using le_total (place a) (place b)
    · intro a b c hab hbc
      exact decide_eq_true ((of_decide_eq_true hab).trans (of_decide_eq_true hbc))
  stable n := by
    refine filter_sortBy (fun a b ha hb => decide_eq_true ?_) l
    rw [of_decide_eq_true ha, of_decide_eq_true hb]

namespace Listener

/-! ## Reported listeners -/

/-- What a member lists: nothing if it is missing or null, and otherwise the elements of an array. -/
inductive Lists (members : List (String × Json)) (name : String) : List Json → Prop
  | none (h : given members name = .null) : Lists members name []
  | array {elements : List Json} (h : given members name = .arr elements) :
      Lists members name elements

/-- A description whose parts have the sorts that a provider gives them, of a listener with the
    actions that are listed. -/
structure Reported (members : List (String × Json)) (actions : List ReportedAction) : Prop where
  arn : has members "ListenerArn" = true
  port : ∃ port, get? members "Port" = some port ∧ port.IsWhole
  protocol : ∃ protocol : Protocol, get? members "Protocol" = some (.str protocol.name)
  certificates : ∃ certificates : List (List (String × Json)),
    Lists members "Certificates" (certificates.map .obj) ∧
    ∀ certificate ∈ certificates, has certificate "CertificateArn" = true
  actions : Lists members "DefaultActions" (actions.map ReportedAction.document)

variable {members : List (String × Json)}

theorem Lists.elements {name : String} {values : List Json} (h : Lists members name values) :
    ((given members name).orElse (.arr [])).elements = .ok values := by
  cases h with
  | none h =>
    rw [h]
    rfl
  | array h => rw [h, Json.orElse_arr_nil, Json.elements]

/-- Reported certificates are read. -/
theorem exists_certificates {certificates : List (List (String × Json))}
    (h : ∀ certificate ∈ certificates, has certificate "CertificateArn" = true) :
    ∃ found, (certificates.map .obj).mapM Certificate.ofDocument = .ok found := by
  refine exists_mapM_iff.mpr fun document hm => ?_
  obtain ⟨certificate, hc, rfl⟩ := List.mem_map.mp hm
  obtain ⟨arn, harn⟩ := Action.exists_member_of_has (h certificate hc)
  exact ⟨_, by rw [Certificate.ofDocument, bind_of_eq_ok harn]; rfl⟩

/-- Reported actions are put in the order of their places. -/
theorem inOrder_documents (actions : List ReportedAction) :
    ∃ ordered, inOrder (actions.map ReportedAction.document) =
        .ok (ordered.map ReportedAction.document) ∧
      Arranged ReportedAction.place actions ordered := by
  refine ⟨_, ?_, .sortBy ReportedAction.place actions⟩
  have hsorted := @inOrder_of_placed (actions.map fun d => (d.place, d.document)) fun p hp => by
    obtain ⟨d, -, rfl⟩ := List.mem_map.mp hp
    exact ⟨_, Json.getD_obj .., d.placed⟩
  rw [sortBy_map, List.map_map, List.map_map] at hsorted
  exact hsorted

/-- Reported actions are read one after the other. -/
theorem exists_mapM_ofObserved (actions : List ReportedAction) :
    ∃ found, (actions.map ReportedAction.document).mapM Action.ofObserved = .ok found ∧
      List.Forall₂ ReportedAction.ReadAs actions found := by
  choose read hread using ReportedAction.exists_readAs
  have hall : List.Forall₂ ReportedAction.ReadAs actions (actions.map read) := by
    rw [List.forall₂_map_right_iff]
    exact List.forall₂_same.mpr fun d _ => hread d
  refine ⟨actions.map read, ?_, hall⟩
  rw [mapM_eq_ok_iff, List.forall₂_map_left_iff]
  exact hall.imp fun _ _ h => h.read

/-- A reported listener is read, whatever its actions are. It has one action for each that is
    reported, in ascending order of places and, where these are the same, in the order in which they
    are reported. The action is of the type that its document names if the document gives what this
    type needs, and it cannot be expressed exactly if there is no such type. -/
theorem ofDocument_of_reported {actions : List ReportedAction} (h : Reported members actions) :
    ∃ live ordered, ofDocument (.obj members) = .ok live ∧
      Arranged ReportedAction.place actions ordered ∧
      List.Forall₂ ReportedAction.ReadAs ordered live.defaultActions := by
  obtain ⟨arn, harn⟩ := Option.isSome_iff_exists.mp h.arn
  obtain ⟨port, hport, n, hn⟩ := h.port
  obtain ⟨protocol, hprotocol⟩ := h.protocol
  obtain ⟨documents, hdocuments, harns⟩ := h.certificates
  obtain ⟨certificates, hcertificates⟩ := exists_certificates harns
  obtain ⟨ordered, hordered, harranged⟩ := inOrder_documents actions
  obtain ⟨defaultActions, hactions, hall⟩ := exists_mapM_ofObserved ordered
  refine ⟨⟨arn, n, protocol, defaultActions, _, certificates, _⟩, ordered,
    ofDocument_eq_ok_iff.mpr ⟨?_, harn, ⟨port, hport, Json.toInteger_of_isInteger hn⟩,
      ⟨_, hprotocol, Protocol.ofJson_name protocol⟩, rfl, ?_, rfl⟩, harranged, hall⟩
  · rw [← given, actionsIn, bind_of_eq_ok h.actions.elements, bind_of_eq_ok hordered, hactions]
  · rw [← given, certificatesIn, bind_of_eq_ok hdocuments.elements, hcertificates]

/-! ## A listener with a weighted forward -/

/-- The target groups of a weighted forward. -/
def weightedGroups : List (List (String × Json)) :=
  [[("TargetGroupArn", .str "blue"), ("Weight", .int 1)],
    [("TargetGroupArn", .str "green"), ("Weight", .int 9)]]

/-- A weighted forward behind every action that names no place. -/
def weightedForward : ReportedAction where
  members := [("Type", .str "forward"), ("Order", .int 2),
    ("ForwardConfig", .obj [("TargetGroups", .arr (weightedGroups.map .obj))])]
  place := 2
  groups := weightedGroups
  placed := rfl
  configs name hname value hv := by
    simp only [Action.configNames, List.mem_cons, List.not_mem_nil, or_false] at hname
    rcases hname with rfl | rfl | rfl | rfl | rfl <;> cases hv
    exact ⟨_, rfl⟩
  grouped := rfl

/-- A sign-in that names no place and leaves everything to its defaults. -/
def plainSignIn : ReportedAction where
  members := [("Type", .str "authenticate-oidc"), ("AuthenticateOidcConfig", .obj [])]
  place := 0
  groups := []
  placed := rfl
  configs name hname value hv := by
    simp only [Action.configNames, List.mem_cons, List.not_mem_nil, or_false] at hname
    rcases hname with rfl | rfl | rfl | rfl | rfl <;> cases hv
    exact ⟨_, rfl⟩
  grouped := rfl

/-- The description of a listener that reports the forward first. -/
def weightedListener : List (String × Json) :=
  [("ListenerArn", .str "arn"), ("Port", .int 443), ("Protocol", .str "HTTPS"),
    ("Certificates", .null),
    ("DefaultActions", .arr [weightedForward.document, plainSignIn.document])]

theorem reported_weightedListener :
    Reported weightedListener [weightedForward, plainSignIn] where
  arn := rfl
  port := ⟨_, rfl, 443, rfl⟩
  protocol := ⟨.https, rfl⟩
  certificates := ⟨[], .none rfl, nofun⟩
  actions := .array rfl

/-- The sign-in comes first and is read, and the weighted forward cannot be expressed. -/
theorem ofDocument_of_reported_weighted :
    ∃ live first second, ofDocument (.obj weightedListener) = .ok live ∧
      live.defaultActions = [first, second] ∧ first.type = "authenticate-oidc" ∧
      first.isUnmanaged = false ∧ second.isUnmanaged = true := by
  obtain ⟨live, ordered, hlive, harranged, hall⟩ :=
    ofDocument_of_reported reported_weightedListener
  obtain rfl : ordered = [plainSignIn, weightedForward] := by
    refine List.Perm.eq_of_pairwise ?_ harranged.ascending (by simp; decide)
      (harranged.perm.trans (.swap _ _ _))
    intro a b ha hb hab hba
    have hdistinct : ¬weightedForward.place ≤ plainSignIn.place := by decide
    rcases List.mem_pair.mp (harranged.perm.mem_iff.mp ha) with rfl | rfl <;>
      rcases List.mem_pair.mp hb with rfl | rfl <;>
      first | rfl | exact absurd ‹_› hdistinct
  generalize hread : live.defaultActions = read at hall
  obtain _ | ⟨hfirst, _ | ⟨hsecond, _ | _⟩⟩ := hall
  have hsignIn : plainSignIn.Expresses (.authenticate .oidc) := ⟨rfl, .authenticate rfl⟩
  refine ⟨live, _, _, hlive, hread, hfirst.type_eq _ hsignIn, ?_, hsecond.unmanaged_iff.mpr ?_⟩
  · exact Bool.eq_false_iff.mpr fun h => hfirst.unmanaged_iff.mp h _ hsignIn
  · rintro type ⟨hnamed, hgives⟩
    have hname : "forward" = type.name := Json.str.inj (Option.some.inj hnamed)
    cases hgives with
    | forward hone => exact absurd hone (by decide)
    | @authenticate provider => cases provider <;> exact absurd hname (by decide)
    | _ => exact absurd hname (by decide)

end Listener

end AlbListener

import AlbListener.Listener.Drift
import AlbListener.Proofs.Action.Document
import AlbListener.Proofs.Listener.Port
import AlbListener.Proofs.Sorting

/-!
# Descriptions of listeners

`Describes` says member by member what it means that a description is read as a listener. With
it, what a call passes can be followed into the store and back.

Results:
* `ofDocument_eq_ok_iff`: a description is read as the listener that it describes.
* `inOrder_alike`: related documents are put in order alike.
* `inOrder_of_placed`: documents whose places are whole numbers are sorted by these.
* `actionsIn_toApi`, `certificatesIn_toApi`: what a call passes for them is read back.
* `names_toApi`: what a call passes for a config.
-/

namespace AlbListener

namespace Listener

/-! ## Documents in order -/

/-- Related documents, whose places compare alike, are put in order alike. -/
theorem inOrder_alike {E : Fault → Fault → Prop} {D P : Json → Json → Prop}
    {documents documents' : List Json} (h : List.Forall₂ D documents documents')
    (hplace : ∀ d d', D d d' → Alike E P (d.getD "Order" (.int 0)) (d'.getD "Order" (.int 0)))
    (hless : ∀ p p' q q', P p p' → P q q' → Alike E Eq (p.less? q) (p'.less? q')) :
    Alike E (List.Forall₂ D) (inOrder documents) (inOrder documents') := by
  have hplaces : Alike E (List.Forall₂ fun p q => P p.1 q.1 ∧ D p.2 q.2)
      (places documents) (places documents') := by
    induction h with
    | nil => exact .ok .nil
    | cons hd _ ih =>
      rw [places, places]
      exact (hplace _ _ hd).bind fun _ _ hp => ih.bind fun _ _ hps => .ok (.cons ⟨hp, hd⟩ hps)
  rw [inOrder, inOrder]
  refine hplaces.bind fun placed placed' hplaced => ?_
  refine (sortWith_alike (fun p p' q q' hp hq => hless _ _ _ _ hp.1 hq.1) hplaced).bind
    fun sorted sorted' hsorted => .ok ?_
  rw [List.forall₂_map_left_iff, List.forall₂_map_right_iff]
  exact hsorted.imp fun _ _ h => h.2

/-- The place of a document is a whole number. -/
def PlacedAt (document : Json) (n : ℤ) : Prop :=
  ∃ place, document.getD "Order" (.int 0) = .ok place ∧ place.IsInteger n

theorem less?_of_isInteger {a b : Json} {m n : ℤ} (ha : a.IsInteger m) (hb : b.IsInteger n) :
    a.less? b = .ok (decide (m < n)) := by
  have hlt : Number.lt (.ofInt m) (.ofInt n) = decide (m < n) := by
    rw [Bool.eq_iff_iff, Number.lt_ofInt_iff, decide_eq_true_iff]
  have hx : a.number? = some (.ofInt m) := ha
  have hy : b.number? = some (.ofInt n) := hb
  cases a with
  | bool _ | int _ | float _ =>
    cases b with
    | bool _ | int _ | float _ => simp only [Json.less?, hx, hy, hlt]
    | _ => cases hy
  | _ => cases hx

theorem places_of_placed {numbers : List (ℤ × Json)} (h : ∀ p ∈ numbers, PlacedAt p.2 p.1) :
    ∃ placed, places (numbers.map Prod.snd) = .ok placed ∧
      List.Forall₂ (fun a p => a.1.IsInteger p.1 ∧ a.2 = p.2) placed numbers := by
  induction numbers with
  | nil => exact ⟨[], rfl, .nil⟩
  | cons p rest ih =>
    obtain ⟨⟨place, hplace, hn⟩, hrest⟩ := List.forall_mem_cons.mp h
    obtain ⟨placed, hplaced, hall⟩ := ih hrest
    refine ⟨(place, p.2) :: placed, ?_, .cons ⟨hn, rfl⟩ hall⟩
    rw [List.map_cons, places, bind_of_eq_ok hplace, bind_of_eq_ok hplaced]
    rfl

/-- Documents whose places are whole numbers are sorted by these. -/
theorem inOrder_of_placed {numbers : List (ℤ × Json)} (h : ∀ p ∈ numbers, PlacedAt p.2 p.1) :
    inOrder (numbers.map Prod.snd) = .ok ((sortBy numberLe numbers).map Prod.snd) := by
  obtain ⟨placed, hplaced, hall⟩ := places_of_placed h
  have hcompare : CompareAlike Eq (fun a p => a.1.IsInteger p.1 ∧ a.2 = p.2)
      (fun a b : Json × Json => a.1.less? b.1)
      (fun a b : ℤ × Json => (.ok (!numberLe b a) : Except Fault Bool)) := by
    intro _ _ _ _ ha hb
    dsimp only
    rw [less?_of_isInteger ha.1 hb.1, numberLe, ← decide_not]
    exact .ok (decide_eq_decide.mpr Int.not_le.symm)
  have hsorted := sortWith_alike hcompare hall
  rw [sortWith_eq_sortBy (fun _ _ => rfl) numberLe_total numberLe_trans] at hsorted
  rw [inOrder, bind_of_eq_ok hplaced]
  generalize sortWith (fun a b : Json × Json => a.1.less? b.1) placed = step at hsorted
  cases hsorted with
  | ok h => exact congrArg Except.ok (map_eq_of_related h fun _ _ hp => hp.2)

/-- Documents that name no place stay in the order in which they come. -/
theorem inOrder_of_forall {documents : List Json}
    (h : ∀ document ∈ documents, document.getD "Order" (.int 0) = .ok (.int 0)) :
    inOrder documents = .ok documents := by
  have hnumbers : (documents.map fun document => ((0 : ℤ), document)).map Prod.snd = documents := by
    rw [List.map_map]
    exact List.map_id _
  have hsorted := @inOrder_of_placed (documents.map fun document => (0, document)) fun p hp => by
    obtain ⟨document, hm, rfl⟩ := List.mem_map.mp hp
    exact ⟨_, h document hm, Json.isInteger_int 0⟩
  rw [sortBy_of_pairwise, hnumbers] at hsorted
  · exact hsorted
  · rw [List.pairwise_map]
    exact List.pairwise_of_forall fun _ _ => decide_eq_true (Int.le_refl 0)

theorem getD_order_toApi {a : Action} (h : a.Managed) :
    a.toApi.getD "Order" (.int 0) = .ok (.int 0) := by
  cases h with
  | authenticate provider _ _ => cases provider <;> rfl
  | _ => rfl

/-! ## What a description says -/

/-- The actions that a member of a description holds, in order. -/
def actionsIn (actions : Json) : Except Fault (List Action) := do
  (← inOrder (← (actions.orElse (.arr [])).elements)).mapM Action.ofObserved

/-- The certificates that a member of a description holds. -/
def certificatesIn (certificates : Json) : Except Fault (List Certificate) := do
  (← (certificates.orElse (.arr [])).elements).mapM Certificate.ofDocument

/-- A description says, member by member, what a listener is. -/
structure Describes (members : List (String × Json)) (live : Listener) : Prop where
  actions : actionsIn ((Entries.get? members "DefaultActions").getD .null) =
    .ok live.defaultActions
  arn : Entries.get? members "ListenerArn" = some live.arn
  port : ∃ port, Entries.get? members "Port" = some port ∧ port.toInteger = .ok live.port
  protocol : ∃ protocol, Entries.get? members "Protocol" = some protocol ∧
    Protocol.ofJson protocol = .ok live.protocol
  sslPolicy : (Entries.get? members "SslPolicy").getD .null = live.sslPolicy
  certificates : certificatesIn ((Entries.get? members "Certificates").getD .null) =
    .ok live.certificates
  loadBalancerArn : (Entries.get? members "LoadBalancerArn").getD .null = live.loadBalancerArn

/-- A description is read as a listener exactly if it describes it. -/
theorem ofDocument_eq_ok_iff {members : List (String × Json)} {live : Listener} :
    ofDocument (.obj members) = .ok live ↔ Describes members live := by
  simp only [ofDocument, Json.getD_obj, bind_eq_ok_iff, Json.member_obj_eq_ok_iff, Except.ok.injEq,
    exists_eq_left']
  constructor
  · rintro ⟨documents, hdocuments, ordered, hordered, arn, harn, port, hport, n, hn, name, hname,
      protocol, hprotocol, actions, hactions, elements, helements, certificates, hcertificates,
      hlive⟩
    cases hlive
    refine ⟨?_, harn, ⟨port, hport, hn⟩, ⟨name, hname, hprotocol⟩, rfl, ?_, rfl⟩
    · rw [actionsIn, bind_of_eq_ok hdocuments, bind_of_eq_ok hordered, hactions]
    · rw [certificatesIn, bind_of_eq_ok helements, hcertificates]
  · rintro ⟨hactions, harn, ⟨port, hport, hn⟩, ⟨name, hname, hprotocol⟩, hpolicy, hcertificates,
      harn'⟩
    obtain ⟨documents, hdocuments, hactions⟩ := bind_eq_ok_iff.mp hactions
    obtain ⟨ordered, hordered, hactions⟩ := bind_eq_ok_iff.mp hactions
    obtain ⟨elements, helements, hcertificates⟩ := bind_eq_ok_iff.mp hcertificates
    refine ⟨documents, hdocuments, ordered, hordered, _, harn, port, hport, _, hn, name, hname, _,
      hprotocol, _, hactions, elements, helements, _, hcertificates, ?_⟩
    rw [hpolicy, harn']
    rfl

/-! ## What a config says -/

/-- Documents that name no place are read one after the other. -/
theorem actionsIn_of_forall {documents : List Json}
    (h : ∀ document ∈ documents, document.getD "Order" (.int 0) = .ok (.int 0)) :
    actionsIn (.arr documents) = documents.mapM Action.ofObserved := by
  rw [actionsIn, Json.orElse_arr_nil, Json.elements, bind_of_eq_ok rfl,
    bind_of_eq_ok (inOrder_of_forall h)]

theorem actionsIn_toApi {actions : List Action} (h : ∀ a ∈ actions, a.Managed) :
    actionsIn (.arr (actions.map Action.toApi)) = .ok actions := by
  rw [actionsIn_of_forall]
  · exact mapM_eq_ok_of_forall fun a ha =>
      Action.ofObserved_eq_ofDocument (Action.ofDocument_toApi (h a ha))
  · intro document hm
    obtain ⟨a, ha, rfl⟩ := List.mem_map.mp hm
    exact getD_order_toApi (h a ha)

theorem certificatesIn_toApi (certificates : List Certificate) :
    certificatesIn (.arr (certificates.map Certificate.toApi)) = .ok certificates := by
  rw [certificatesIn, Json.orElse_arr_nil, Json.elements, bind_of_eq_ok rfl]
  exact mapM_eq_ok_of_forall fun c _ => rfl

end Listener

namespace ListenerConfig

open Entries (names get?)

/-- The names of what calls pass for a config. -/
theorem names_toApi (config : ListenerConfig) :
    names config.toApi = ["Port", "Protocol", "DefaultActions"]
      ++ (if config.certificates.isEmpty then [] else ["Certificates"])
      ++ (if config.sslPolicy.isNull then [] else ["SslPolicy"]) := by
  unfold toApi Action.optional
  split_ifs <;> rfl

theorem distinct_toApi (config : ListenerConfig) : Entries.Distinct config.toApi := by
  rw [Entries.Distinct, names_toApi]
  split_ifs <;> decide

theorem get?_toApi_port (config : ListenerConfig) :
    get? config.toApi "Port" = some config.port := rfl

theorem get?_toApi_protocol (config : ListenerConfig) :
    get? config.toApi "Protocol" = some (.str config.protocol.name) := rfl

theorem get?_toApi_defaultActions (config : ListenerConfig) :
    get? config.toApi "DefaultActions" = some (.arr (config.defaultActions.map Action.toApi)) := rfl

theorem get?_toApi_certificates (config : ListenerConfig) :
    get? config.toApi "Certificates" = if config.certificates.isEmpty then none
      else some (.arr (config.certificates.map Certificate.toApi)) := by
  unfold toApi Action.optional
  split_ifs <;> rfl

theorem get?_toApi_sslPolicy (config : ListenerConfig) :
    get? config.toApi "SslPolicy" =
      if config.sslPolicy.isNull then none else some config.sslPolicy := by
  unfold toApi Action.optional
  split_ifs <;> rfl

theorem get?_toApi_of_not_mem (config : ListenerConfig) (name : String)
    (h : name ∉ ["Port", "Protocol", "DefaultActions", "Certificates", "SslPolicy"]) :
    get? config.toApi name = none := by
  rw [Entries.get?_eq_none_iff, names_toApi]
  split_ifs <;> simp_all

end ListenerConfig

end AlbListener

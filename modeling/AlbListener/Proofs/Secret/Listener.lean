import AlbListener.Proofs.Listener.Description
import AlbListener.Proofs.Secret.Action

/-!
# Listeners with other client secrets

Live listeners, and desired ones, are twins if they are the same but for the client secrets of their
default actions. Twin descriptions are read as twin listeners, drift is found on the same fields of
twins, and is shown in the same cells.

Results:
* `Listener.ofDocument_twin`: twin descriptions are read alike.
* `ListenerConfig.Twin.toApi`: what is passed for twin configs is the same but for client secrets.
* `Listener.drifts_twin`: drift between twins.
* `Drift.columns_of_twin`, `View.configTable_of_twin`: what is shown is the same.
-/

namespace AlbListener

open AlbListener.Action (DocumentTwin LiveTwin not_holdsSettings)

namespace Listener

/-! ## Live listeners -/

/-- Descriptions of listeners that are the same but for client secrets. -/
abbrev DescriptionTwin : Json → Json → Prop :=
  Json.TwinAt (· = "DefaultActions") (Json.TwinAll DocumentTwin)

/-- Live listeners that are the same but for client secrets. -/
structure Twin (live live' : Listener) : Prop where
  arn : live.arn = live'.arn
  port : live.port = live'.port
  protocol : live.protocol = live'.protocol
  actions : List.Forall₂ LiveTwin live.defaultActions live'.defaultActions
  sslPolicy : live.sslPolicy = live'.sslPolicy
  certificates : live.certificates = live'.certificates
  loadBalancerArn : live.loadBalancerArn = live'.loadBalancerArn

/-- Twin documents are put in order alike. -/
theorem inOrder_twin {documents documents' : List Json}
    (h : List.Forall₂ DocumentTwin documents documents') :
    Alike Eq (List.Forall₂ DocumentTwin) (inOrder documents) (inOrder documents') := by
  refine inOrder_alike (P := Eq) h (fun d d' hd => ?_) ?_
  · rw [hd.getD_eq (not_holdsSettings (by decide) (by decide))]
    exact .same _
  · rintro p _ q _ rfl rfl
    exact .same _

/-- Twin descriptions are read as twin listeners. -/
theorem ofDocument_twin {data data' : Json} (h : DescriptionTwin data data') :
    Alike Eq Twin (ofDocument data) (ofDocument data') := by
  unfold ofDocument
  rw [h.member_eq (show ¬ "ListenerArn" = _ by decide), h.member_eq (show ¬ "Port" = _ by decide),
    h.member_eq (show ¬ "Protocol" = _ by decide), h.getD_eq (show ¬ "SslPolicy" = _ by decide),
    h.getD_eq (show ¬ "Certificates" = _ by decide),
    h.getD_eq (show ¬ "LoadBalancerArn" = _ by decide)]
  refine (h.getD .refl _ _).bind fun _ _ hactions => ?_
  refine ((hactions.orElse _).elements .refl).bind fun _ _ hdocuments => ?_
  refine (inOrder_twin hdocuments).bind fun _ _ hordered => ?_
  refine .bind_same _ fun arn => .bind_same _ fun _ => .bind_same _ fun port => ?_
  refine .bind_same _ fun _ => .bind_same _ fun protocol => ?_
  refine (Alike.mapM hordered fun _ _ => Action.ofObserved_twin).bind fun _ _ hactions => ?_
  refine .bind_same _ fun sslPolicy => .bind_same _ fun _ => .bind_same _ fun _ => ?_
  refine .bind_same _ fun certificates => .bind_same _ fun balancer => ?_
  exact .ok ⟨rfl, rfl, rfl, hactions, rfl, rfl, rfl⟩

end Listener

/-! ## Desired listeners -/

/-- Desired listeners that are the same but for client secrets. All actions of a desired listener
    can be expressed. -/
structure ListenerConfig.Twin (config config' : ListenerConfig) : Prop where
  port : config.port = config'.port
  protocol : config.protocol = config'.protocol
  actions : List.Forall₂ Action.Twin config.defaultActions config'.defaultActions
  sslPolicy : config.sslPolicy = config'.sslPolicy
  certificates : config.certificates = config'.certificates
  expressed : ∀ a ∈ config.defaultActions, a.isUnmanaged = false

namespace ListenerConfig.Twin

variable {config config' : ListenerConfig}

theorem live (h : config.Twin config') :
    List.Forall₂ LiveTwin config.defaultActions config'.defaultActions :=
  h.actions.imp fun _ _ => .expressed

/-- What is passed for twin configs is the same but for client secrets. -/
theorem toApi (h : config.Twin config') :
    MembersTwin (· = "DefaultActions") (Json.TwinAll DocumentTwin) config.toApi config'.toApi := by
  have hactions : List.Forall₂ DocumentTwin (config.defaultActions.map Action.toApi)
      (config'.defaultActions.map Action.toApi) := by
    rw [List.forall₂_map_left_iff, List.forall₂_map_right_iff]
    exact h.live.imp fun _ _ => LiveTwin.toApi
  unfold ListenerConfig.toApi
  rw [h.port, h.protocol, h.sslPolicy, h.certificates]
  refine .append (.append ?_ (.refl _)) (.refl _)
  exact .cons ⟨rfl, .inl rfl⟩ (.cons ⟨rfl, .inl rfl⟩ (.cons ⟨rfl, .inr ⟨rfl, .arr hactions⟩⟩ .nil))

end ListenerConfig.Twin

/-- Twin configs are shown in the same table. -/
theorem View.configTable_of_twin {config config' : ListenerConfig} (h : config.Twin config') :
    View.configTable config = View.configTable config' := by
  unfold View.configTable
  rw [Action.actionLines_of_twin h.live, h.port, h.protocol, h.sslPolicy, h.certificates]

/-! ## Drift -/

namespace Drift

/-- Drifts that are the same but for client secrets. -/
inductive Twin : Drift → Drift → Prop
  | refl (d : Drift) : Twin d d
  | defaultActions {observed observed' desired desired' : List Action}
      (ho : List.Forall₂ LiveTwin observed observed')
      (hd : List.Forall₂ LiveTwin desired desired') :
      Twin (.defaultActions observed desired) (.defaultActions observed' desired')

theorem Twin.field {d d' : Drift} (h : Twin d d') : d.field = d'.field := by cases h <;> rfl

theorem Twin.cells {d d' : Drift} (h : Twin d d') : View.driftCells d = View.driftCells d' := by
  cases h with
  | refl => rfl
  | defaultActions ho hd =>
    dsimp only [View.driftCells]
    rw [Action.actionLines_of_twin ho, Action.actionLines_of_twin hd]

theorem fields_of_twin {drifts drifts' : List Drift} (h : List.Forall₂ Twin drifts drifts') :
    drifts.map Drift.field = drifts'.map Drift.field :=
  map_eq_of_related h fun _ _ => Twin.field

/-- Twin drifts are shown in the same columns. -/
theorem columns_of_twin {drifts drifts' : List Drift} (h : List.Forall₂ Twin drifts drifts') :
    View.driftColumns drifts = View.driftColumns drifts' := by
  unfold View.driftColumns
  rw [mapM_eq_of_related h fun _ _ => Twin.cells,
    map_eq_of_related h fun _ _ hd => congrArg Json.str hd.field]

end Drift

namespace Listener

theorem driftUnless_twin (same : Bool) {d d' : Drift} (h : d.Twin d') :
    List.Forall₂ Drift.Twin (driftUnless same d) (driftUnless same d') := by
  cases same with
  | true => exact .nil
  | false => exact .cons h .nil

variable {live live' : Listener} {config config' : ListenerConfig}

/-- Drift is found on the same fields of twins. -/
theorem drifts_twin (h : live.Twin live') (hc : config.Twin config') :
    Alike Eq (List.Forall₂ Drift.Twin) (live.drifts config) (live'.drifts config') := by
  have hsame : Action.sameAll live.defaultActions config.defaultActions =
      Action.sameAll live'.defaultActions config'.defaultActions :=
    Action.sameAll_of_twin h.actions hc.actions hc.expressed
  unfold drifts
  rw [h.port, h.protocol, h.sslPolicy, h.certificates, hc.port, hc.protocol, hc.sslPolicy,
    hc.certificates, hsame]
  refine .bind_same _ fun _ => .bind_same _ fun _ => .ok ?_
  exact List.rel_append (List.rel_append (List.rel_append (List.rel_append
    (driftUnless_twin _ (.refl _)) (driftUnless_twin _ (.refl _))) (driftUnless_twin _ (.refl _)))
    (driftUnless_twin _ (.refl _))) (driftUnless_twin _ (.defaultActions h.actions hc.live))

/-- Twins are modified alike. -/
theorem needsUpdate_twin (h : live.Twin live') (hc : config.Twin config') :
    live.needsUpdate config = live'.needsUpdate config' := by
  refine Alike.eq ((drifts_twin h hc).bind fun drifts drifts' hd => .ok ?_)
  cases hd <;> rfl

end Listener

end AlbListener

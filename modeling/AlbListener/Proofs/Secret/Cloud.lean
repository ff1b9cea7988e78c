import AlbListener.Cloud.Fleet
import AlbListener.Proofs.Secret.Listener
import AlbListener.Proofs.Secret.Run

/-!
# Clouds that hold other client secrets

A fleet whose listeners differ from those of another one only in client secrets goes on to do so
after every call, and what it answers differs only there. So a cloud behind the client of a fleet
finds, creates and modifies twin listeners, and no failure tells the fleets apart.

Results:
* `Client.Twin.cloud`: the clouds behind twin clients are twins.
* `Fleet.client_twin`: the client of a fleet does not tell twin fleets apart.
-/

namespace AlbListener

open Entries (get?)
open Listener (DescriptionTwin)

variable {σ γ : Type} {pick : Effect → Option γ} {S : σ → σ → Prop}

/-- Clouds that make twin listeners of twin configs. -/
structure Cloud.Twin (pick : Effect → Option γ) (S : σ → σ → Prop) (cloud cloud' : Cloud σ) :
    Prop where
  create : ∀ (loadBalancerArn : Json) {config config' : ListenerConfig}, config.Twin config' →
    Run.Twin pick S Listener.Twin (cloud.create loadBalancerArn config)
      (cloud'.create loadBalancerArn config')
  modify : ∀ (listenerArn : Json) {config config' : ListenerConfig}, config.Twin config' →
    Run.Twin pick S Listener.Twin (cloud.modify listenerArn config)
      (cloud'.modify listenerArn config')
  describe : ∀ loadBalancerArn port : Json, Run.Twin pick S (Option.Rel Listener.Twin)
    (cloud.describe loadBalancerArn port) (cloud'.describe loadBalancerArn port)

/-! ## Clients -/

/-- Parameters of calls that are the same but for client secrets. -/
abbrev ParamsTwin : List (String × Json) → List (String × Json) → Prop :=
  MembersTwin (· = "DefaultActions") (Json.TwinAll Action.DocumentTwin)

/-- Answers and pages that hold twin descriptions. -/
abbrev AnswerTwin : Json → Json → Prop :=
  Json.TwinAt (· = "Listeners") (Json.TwinAll DescriptionTwin)

/-- Clients that answer alike to parameters that are the same but for client secrets. -/
structure Client.Twin (pick : Effect → Option γ) (S : σ → σ → Prop) (client client' : Client σ) :
    Prop where
  create : ∀ {params params' : List (String × Json)}, ParamsTwin params params' →
    Run.Twin pick S AnswerTwin (client.create params) (client'.create params')
  modify : ∀ {params params' : List (String × Json)}, ParamsTwin params params' →
    Run.Twin pick S AnswerTwin (client.modify params) (client'.modify params')
  describe : ∀ params : List (String × Json),
    Run.Twin pick S (List.Forall₂ (Run.Twin pick S AnswerTwin)) (client.describe params)
      (client'.describe params)

namespace Client

theorem listenerOf_twin {answer answer' : Json} (h : AnswerTwin answer answer') :
    Alike Eq Listener.Twin (listenerOf answer) (listenerOf answer') :=
  (h.member .refl _).bind fun _ _ hlisteners => (hlisteners.first .refl).bind fun _ _ =>
    Listener.ofDocument_twin

theorem findOnPort_twin (port : Json) {items items' : List Json}
    (h : List.Forall₂ DescriptionTwin items items') :
    Alike Eq (Option.Rel DescriptionTwin) (findOnPort port items) (findOnPort port items') := by
  induction h with
  | nil => exact .ok .none
  | cons hitem _ ih =>
    unfold findOnPort
    rw [hitem.getD_eq (show ¬ "Port" = _ by decide)]
    refine .bind_same _ fun found => ?_
    split_ifs
    · exact .ok (.some hitem)
    · exact ih

theorem findOnPage_twin (port : Json) {page page' : Json} (h : AnswerTwin page page') :
    Alike Eq (Option.Rel DescriptionTwin) (findOnPage port page) (findOnPage port page') :=
  (h.getD .refl _ _).bind fun _ _ hitems => (hitems.elements .refl).bind fun _ _ =>
    findOnPort_twin port

theorem findListener_twin (port : Json) {pages pages' : List (Run σ Json)}
    (h : List.Forall₂ (Run.Twin pick S AnswerTwin) pages pages') :
    Run.Twin pick S (Option.Rel DescriptionTwin) (findListener port pages)
      (findListener port pages') := by
  induction h with
  | nil => exact Run.twin_pure .none
  | cons hfetch _ ih =>
    refine hfetch.bind fun page page' hpage => ?_
    refine (Run.twin_read (findOnPage_twin port hpage)).bind fun found found' hfound => ?_
    cases hfound with
    | none => exact ih
    | some hitem => exact Run.twin_pure (.some hitem)

/-- The clouds behind twin clients are twins. -/
theorem Twin.cloud {client client' : Client σ} (h : client.Twin pick S client') :
    client.cloud.Twin pick S client'.cloud where
  create := fun arn config config' hc => by
    unfold Client.cloud
    dsimp only
    rw [hc.protocol, hc.port]
    refine (Run.twin_log _ _ _).bind_same fun _ => ?_
    exact (h.create (.cons ⟨rfl, .inl rfl⟩ hc.toApi)).bind fun _ _ hanswer =>
      Run.twin_read (listenerOf_twin hanswer)
  modify := fun arn config config' hc => by
    refine (Run.twin_log _ _ _).bind_same fun _ => ?_
    exact (h.modify (.cons ⟨rfl, .inl rfl⟩ hc.toApi)).bind fun _ _ hanswer =>
      Run.twin_read (listenerOf_twin hanswer)
  describe := fun arn port => by
    refine (h.describe _).bind fun pages pages' hpages => ?_
    refine (findListener_twin port hpages).bind fun found found' hfound => ?_
    cases hfound with
    | none => exact Run.twin_pure .none
    | some hitem =>
      exact (Run.twin_read (Listener.ofDocument_twin hitem)).bind fun _ _ hlive =>
        Run.twin_pure (.some hlive)

end Client

/-! ## Fleets -/

namespace Fleet

/-- Fleets that are the same but for client secrets. -/
structure Twin (fleet fleet' : Fleet) : Prop where
  listeners : List.Forall₂ DescriptionTwin fleet.listeners fleet'.listeners
  created : fleet.created = fleet'.created
  pageSize : fleet.pageSize = fleet'.pageSize
  pending : fleet.pending = fleet'.pending
  answer? : Option.Rel AnswerTwin fleet.answer? fleet'.answer?
  pages? : Option.Rel (List.Forall₂ AnswerTwin) fleet.pages? fleet'.pages?

variable {fleet fleet' : Fleet} {params params' : List (String × Json)}
  {listeners listeners' : List Json}

theorem param_twin (h : ParamsTwin params params') {name : String} (hn : name ≠ "DefaultActions") :
    param params name = param params' name := by
  rw [param, param, h.get?_eq hn]

theorem hasMember_twin {description description' : Json}
    (h : DescriptionTwin description description') {name : String} (hn : name ≠ "DefaultActions")
    (value : Json) :
    hasMember name value description = hasMember name value description' := by
  cases h with
  | refl => rfl
  | obj h => rw [hasMember, hasMember, h.get?_eq hn]

theorem merge_twin (hp : ParamsTwin params params') {description description' : Json}
    (h : DescriptionTwin description description') :
    DescriptionTwin (merge params description) (merge params' description') := by
  cases h with
  | refl =>
    cases description with
    | obj members => exact .obj (.overlay (.refl members) hp)
    | _ => exact .refl _
  | obj h => exact .obj (h.overlay hp)

/-- A call that is made does not tell fleets apart, whatever it passes. -/
theorem send_twin (hpick : HidesCalls pick) (call : Call) (params params' : List (String × Json)) :
    Run.Twin pick Twin Eq (send call params) (send call params') := by
  intro fleet fleet' h
  have htrace : [Effect.send call params].filterMap pick =
      [Effect.send call params'].filterMap pick := by
    rw [List.filterMap_cons_none (hpick.send ..), List.filterMap_cons_none (hpick.send ..)]
  unfold send
  rw [h.pending]
  split
  · exact ⟨.error rfl, { h with pending := rfl }, htrace⟩
  · exact ⟨.ok rfl, h, htrace⟩

theorem create_twin (h : fleet.Twin fleet') (hp : ParamsTwin params params') :
    (fleet.create params).1.Twin (fleet'.create params').1 ∧
      DescriptionTwin (fleet.create params).2 (fleet'.create params').2 := by
  have hlistener : DescriptionTwin (fleet.create params).2 (fleet'.create params').2 := by
    unfold create
    rw [param_twin hp (by decide), h.created]
    exact .obj (.overlay (.refl _) hp)
  refine ⟨{ h with listeners := ?_, created := ?_ }, hlistener⟩
  · exact List.rel_append h.listeners (.cons hlistener .nil)
  · exact congrArg (· + 1) h.created

theorem modifyFirst_twin (arn : Json) (hp : ParamsTwin params params')
    (h : List.Forall₂ DescriptionTwin listeners listeners') :
    Option.Rel (fun found found' => List.Forall₂ DescriptionTwin found.1 found'.1 ∧
      DescriptionTwin found.2 found'.2) (modifyFirst arn params listeners)
      (modifyFirst arn params' listeners') := by
  induction h with
  | nil => exact .none
  | cons hd hrest ih =>
    rw [modifyFirst, modifyFirst, hasMember_twin hd (by decide)]
    split_ifs
    · exact .some ⟨.cons (merge_twin hp hd) hrest, merge_twin hp hd⟩
    · generalize modifyFirst arn params _ = found, modifyFirst arn params' _ = found' at ih
      cases ih with
      | none => exact .none
      | some hfound => exact .some ⟨.cons hd hfound.1, hfound.2⟩

theorem chunks_twin (size fuel : Nat) (h : List.Forall₂ DescriptionTwin listeners listeners') :
    List.Forall₂ (List.Forall₂ DescriptionTwin) (chunks size fuel listeners)
      (chunks size fuel listeners') := by
  induction fuel generalizing listeners listeners' with
  | zero => exact .nil
  | succ fuel ih =>
    cases h with
    | nil => exact .nil
    | cons hd hrest =>
      exact .cons (List.forall₂_take _ (.cons hd hrest)) (ih (List.forall₂_drop _ (.cons hd hrest)))

theorem pages_twin (h : fleet.Twin fleet') (arn : Json) :
    List.Forall₂ AnswerTwin (fleet.pages arn) (fleet'.pages arn) := by
  have hfound : List.Forall₂ DescriptionTwin
      (fleet.listeners.filter (hasMember "LoadBalancerArn" arn))
      (fleet'.listeners.filter (hasMember "LoadBalancerArn" arn)) :=
    List.rel_filter (fun _ _ hd => by dsimp only; rw [hasMember_twin hd (by decide)]) h.listeners
  unfold pages
  rw [h.pageSize]
  generalize fleet.listeners.filter _ = found, fleet'.listeners.filter _ = found' at hfound
  have hparts : List.Forall₂ (List.Forall₂ DescriptionTwin)
      (if fleet'.pageSize = 0 ∨ found.isEmpty then [found]
        else chunks fleet'.pageSize found.length found)
      (if fleet'.pageSize = 0 ∨ found'.isEmpty then [found']
        else chunks fleet'.pageSize found'.length found') := by
    have hempty : found.isEmpty = found'.isEmpty := by cases hfound <;> rfl
    rw [hempty, hfound.length_eq]
    split_ifs
    · exact .cons hfound .nil
    · exact chunks_twin _ _ hfound
  rw [List.forall₂_map_left_iff, List.forall₂_map_right_iff]
  exact hparts.imp fun _ _ hpart => .obj (.cons ⟨rfl, .inr ⟨rfl, .arr hpart⟩⟩ .nil)

theorem answerWith_twin {listener listener' : Json} (h : DescriptionTwin listener listener') :
    AnswerTwin (answerWith listener) (answerWith listener') :=
  .obj (.cons ⟨rfl, .inr ⟨rfl, .arr (.cons h .nil)⟩⟩ .nil)

/-- The client of a fleet does not tell twin fleets apart. -/
theorem client_twin (hpick : HidesCalls pick) : client.Twin pick Twin client where
  create := fun {params params'} hp => by
    refine (send_twin hpick _ _ _).bind fun _ _ _ fleet fleet' h => ?_
    have hanswer := h.answer?
    dsimp only
    generalize fleet.answer? = answer, fleet'.answer? = answer' at hanswer
    cases hanswer with
    | some hanswer => exact ⟨.ok hanswer, h, rfl⟩
    | none =>
      obtain ⟨hfleet, hlistener⟩ := create_twin h hp
      exact ⟨.ok (answerWith_twin hlistener), hfleet, rfl⟩
  modify := fun {params params'} hp => by
    refine (send_twin hpick _ _ _).bind fun _ _ _ fleet fleet' h => ?_
    have hanswer := h.answer?
    have hmodified := modifyFirst_twin (param params' "ListenerArn") hp h.listeners
    rw [param_twin hp (by decide)]
    generalize fleet.answer? = answer, fleet'.answer? = answer' at hanswer
    cases hanswer with
    | some hanswer => exact ⟨.ok hanswer, h, rfl⟩
    | none =>
      dsimp only
      generalize modifyFirst _ params _ = found, modifyFirst _ params' _ = found' at hmodified
      cases hmodified with
      | none => exact ⟨.error rfl, h, rfl⟩
      | some hfound =>
        exact ⟨.ok (answerWith_twin hfound.2),
          { h with listeners := hfound.1, answer? := .none }, rfl⟩
  describe := fun params => by
    refine (send_twin hpick _ _ _).bind fun _ _ _ fleet fleet' h => ?_
    refine ⟨.ok ?_, h, rfl⟩
    rw [List.forall₂_map_left_iff, List.forall₂_map_right_iff]
    have hpages := h.pages?
    generalize fleet.pages? = pages, fleet'.pages? = pages' at hpages
    cases hpages with
    | none => exact (pages_twin h _).imp fun _ _ => Run.twin_pure
    | some hpages => exact hpages.imp fun _ _ => Run.twin_pure

/-- The cloud of a fleet does not tell twin fleets apart. -/
theorem cloud_twin (hpick : HidesCalls pick) : cloud.Twin pick Twin cloud :=
  (client_twin hpick).cloud

end Fleet

end AlbListener

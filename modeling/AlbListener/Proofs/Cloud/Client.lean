import AlbListener.Proofs.Cloud.Provider
import AlbListener.Proofs.Listener.Drift

/-!
# The cloud behind a client

What the cloud behind a client makes of the answers of a provider.

Results:
* `ending_create`, `ending_modify`: how a call ends, from how the provider's part ends.
* `ending_describe`: a live listener is found if a description of it is stored.
-/

namespace AlbListener

open Fleet (hasMember merge answerWith)

namespace Client

variable {σ : Type}

/-- The listener that is answered is read from its description. -/
theorem listenerOf_answerWith (description : Json) :
    listenerOf (answerWith description) = Listener.ofDocument description := rfl

/-- A call ends with the listener in the answer to it. -/
theorem ending_call {call : Run σ Json} (level : LogLevel) (source : LogSource) (message : String)
    (s : σ) :
    (do
      Run.log level source message
      let answer ← call
      Run.read (listenerOf answer)).ending s =
      ((call.ending s).1.bind fun answer => (listenerOf answer).mapError Stop.ofFault,
        (call.ending s).2) := by
  rw [Run.ending_bind_of_ok _ (Run.ending_log ..)]
  rcases hend : call.ending s with ⟨reason | answer, s'⟩
  · rw [Run.ending_bind_of_error _ hend]
    rfl
  · rw [Run.ending_bind_of_ok _ hend, Run.ending_read]
    rfl

theorem ending_create (client : Client σ) (arn : Json) (config : ListenerConfig) (s : σ) :
    (client.cloud.create arn config).ending s =
      let call := (client.create (("LoadBalancerArn", arn) :: config.toApi)).ending s
      (call.1.bind fun answer => (listenerOf answer).mapError Stop.ofFault, call.2) :=
  ending_call ..

theorem ending_modify (client : Client σ) (arn : Json) (config : ListenerConfig) (s : σ) :
    (client.cloud.modify arn config).ending s =
      let call := (client.modify (("ListenerArn", arn) :: config.toApi)).ending s
      (call.1.bind fun answer => (listenerOf answer).mapError Stop.ofFault, call.2) :=
  ending_call ..

/-! ## Describing -/

/-- A description of a listener on a port of a load balancer. -/
def OnPort (arn port item : Json) : Prop :=
  hasMember "LoadBalancerArn" arn item = true ∧ hasMember "Port" port item = true

/-- The live listener of which a description was found, if one was. -/
def liveOf : Option Json → Run σ (Option Listener)
  | none => return none
  | some found => return some (← Run.read (Listener.ofDocument found))

theorem describe_eq (client : Client σ) (arn port : Json) :
    client.cloud.describe arn port = client.describe [("LoadBalancerArn", arn)] >>= fun pages =>
      findListener port pages >>= liveOf := rfl

theorem ending_liveOf_some (item : Json) (s : σ) : (liveOf (some item)).ending s =
    (((Listener.ofDocument item).mapError Stop.ofFault).map some, s) := by
  have hread := Run.ending_read (Listener.ofDocument item) s
  rw [liveOf]
  rcases hlive : Listener.ofDocument item with fault | live
  · rw [hlive] at hread
    rw [Run.ending_bind_of_error _ hread]
    rfl
  · rw [hlive] at hread
    rw [Run.ending_bind_of_ok _ hread]
    rfl

/-- Describing a port either stops with the provider, or finds a description that is stored
    for the port, if there is one. -/
theorem ending_describe {client : Client σ} {Valid : σ → Prop} {stored : σ → List Json}
    (hc : client.Keeps Valid stored) {arn : Json} (port : Json) {s : σ} (hs : Valid s) :
    ∃ s', Valid s' ∧ stored s' = stored s ∧
      ((∃ reason, client.DescribeStops arn s reason ∧
          (client.cloud.describe arn port).ending s = (.error reason, s')) ∨
        ((∀ item ∈ stored s, ¬OnPort arn port item) ∧
          (client.cloud.describe arn port).ending s = (.ok none, s')) ∨
        ∃ item ∈ stored s, OnPort arn port item ∧
          (client.cloud.describe arn port).ending s =
            (((Listener.ofDocument item).mapError Stop.ofFault).map some, s')) := by
  rw [describe_eq]
  rcases hcall : (client.describe [("LoadBalancerArn", arn)]).ending s with ⟨reason | pages, s'⟩
  · obtain ⟨hvalid, hstored, -⟩ := hc.describe hs hcall
    exact ⟨s', hvalid, hstored, .inl ⟨reason, .inl (congrArg Prod.fst hcall),
      Run.ending_bind_of_error _ hcall⟩⟩
  · obtain ⟨hvalid, hstored, hpages⟩ := hc.describe hs hcall
    obtain ⟨parts, hparts, hmem⟩ := hpages pages rfl
    have hobj : ∀ item ∈ parts.flatten, ∃ members, item = .obj members := by
      intro item hm
      have := ((hmem item).mp hm).2
      cases item with
      | obj members => exact ⟨members, rfl⟩
      | _ => cases this
    obtain ⟨s'', hvalid', hstored', hfind⟩ := ending_findListener port hvalid hparts hobj
    rw [Run.ending_bind_of_ok _ hcall]
    refine ⟨s'', hvalid', hstored'.trans hstored, ?_⟩
    rcases hfind with ⟨reason, hreason, fetch, hm, s₁, hstop⟩ | hfound
    · exact .inl ⟨reason, .inr ⟨pages, congrArg Prod.fst hcall, fetch, hm, s₁, hstop⟩,
        Run.ending_bind_of_error _ hreason⟩
    · rw [Run.ending_bind_of_ok _ hfound]
      rcases hitem : parts.flatten.find? (hasMember "Port" port) with _ | item
      · refine .inr (.inl ⟨fun item hstored hport => ?_, rfl⟩)
        have hm := (hmem item).mpr ⟨hstored, hport.1⟩
        exact List.find?_eq_none.mp hitem item hm hport.2
      · obtain ⟨hm, harn⟩ := (hmem item).mp (List.mem_of_find?_eq_some hitem)
        exact .inr (.inr ⟨item, hm, ⟨harn, List.find?_some hitem⟩, ending_liveOf_some item s''⟩)

end Client

end AlbListener

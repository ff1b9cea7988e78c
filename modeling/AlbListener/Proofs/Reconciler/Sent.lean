import AlbListener.Proofs.Cloud.Fleet
import AlbListener.Proofs.Reconciler.Convergence
import AlbListener.Proofs.Reconciler.Events

/-!
# What a pass sends

The provider is sent the calls that change listeners and those that describe them.
`Fleet.Ready` is a fleet that answers every call as its listeners have it. A pass over such a
fleet sends one create call, one modify call or no call that changes anything.

Results:
* `Ready.ending_describe`, `Ready.ending_create`: a ready fleet answers as its listeners have it.
* `sent_applyConfig_create`, `sent_applyConfig_modify`, `sent_applyConfig_quiet`: what the listener
  step sends.
* `sent_reconcile`: a pass sends what its listener step sends.
* `course_of_converge`: how a pass ends and what it sends, from what is live.
-/

namespace AlbListener

/-- A call that changes listeners, with its parameters. -/
def Effect.change : Effect → Option (Call × List (String × Json))
  | .send .describe _ => none
  | .send call params => some (call, params)
  | _ => none

/-- The calls that change listeners which a run sends. -/
def Run.sent {σ α : Type} (run : Run σ α) (s : σ) : List (Call × List (String × Json)) :=
  run.seen Effect.change s

namespace Fleet

variable {fleet : Fleet}

/-- No failure is pending, and no answer is set from outside. -/
structure Ready (fleet : Fleet) : Prop where
  unscripted : fleet.Unscripted
  idle : fleet.pending = []

theorem seen_send {γ : Type} (pick : Effect → Option γ) (call : Call)
    (params : List (String × Json)) (fleet : Fleet) :
    (send call params).seen pick fleet = (pick (.send call params)).toList := by
  rw [← Run.seen_emit _ fleet, Run.seen, send]
  split
  · rfl
  · rfl

theorem sent_create (params : List (String × Json)) (fleet : Fleet) :
    (client.create params).sent fleet = [(.create, params)] := by
  refine (Run.seen_bind_of_hides fun _ fleet => ?_).trans (seen_send ..)
  dsimp only [Run.seen]
  split
  · rfl
  · rfl

theorem sent_modify (params : List (String × Json)) (fleet : Fleet) :
    (client.modify params).sent fleet = [(.modify, params)] := by
  refine (Run.seen_bind_of_hides fun _ fleet => ?_).trans (seen_send ..)
  dsimp only [Run.seen]
  split
  · rfl
  · split
    · rfl
    · rfl

/-- The cloud sends a call, whatever it makes of the answer. -/
theorem sent_call {call : Run Fleet Json} (level : LogLevel) (source : LogSource)
    (message : String) (fleet : Fleet) :
    (do
      Run.log level source message
      let answer ← call
      Run.read (Client.listenerOf answer)).sent fleet = call.sent fleet := by
  have hlog : (Run.log level source message : Run Fleet Unit).Hides Effect.change :=
    Run.hides_log (fun _ => rfl) level source message
  exact (hlog.seen_bind (Run.ending_log ..)).trans
    (Run.seen_bind_of_hides fun _ => Run.hides_read _)

theorem sent_cloud_create (loadBalancerArn : Json) (config : ListenerConfig) (fleet : Fleet) :
    (cloud.create loadBalancerArn config).sent fleet =
      [(.create, ("LoadBalancerArn", loadBalancerArn) :: config.toApi)] :=
  (sent_call ..).trans (sent_create ..)

theorem sent_cloud_modify (listenerArn : Json) (config : ListenerConfig) (fleet : Fleet) :
    (cloud.modify listenerArn config).sent fleet =
      [(.modify, ("ListenerArn", listenerArn) :: config.toApi)] :=
  (sent_call ..).trans (sent_modify ..)

namespace Ready

theorem ending_send (h : fleet.Ready) (call : Call) (params : List (String × Json)) :
    (send call params).ending fleet = (.ok (), fleet) := by
  unfold Run.ending send
  rw [h.idle]
  rfl

/-- Describing a port leaves a ready fleet as it is, and sends nothing that changes it. -/
theorem describe (h : fleet.Ready) (loadBalancerArn port : Json) :
    ((cloud.describe loadBalancerArn port).ending fleet).2 = fleet ∧
      (cloud.describe loadBalancerArn port).sent fleet = [] := by
  let params := [("LoadBalancerArn", loadBalancerArn)]
  let pages := fleet.pages?.getD (fleet.pages loadBalancerArn)
  have hcall : (client.describe params).ending fleet = (.ok (pages.map Run.pure), fleet) :=
    Run.ending_bind_of_ok _ (h.ending_send .describe params)
  have hsent : (client.describe params).sent fleet = [] :=
    (Run.seen_bind_of_hides fun _ _ => rfl).trans (seen_send ..)
  rw [cloud, Client.describe_eq, Run.ending_bind_of_ok _ hcall, Run.sent,
    Run.seen_bind_of_ok _ hcall, show Run.seen Effect.change _ fleet = [] from hsent]
  have hsearch := calm_search Effect.change port pages
  exact ⟨hsearch.still fleet, hsearch.hides fleet⟩

/-- Describing a port of a ready fleet finds a listener that is stored for it, if there is one. -/
theorem ending_describe (h : fleet.Ready) (loadBalancerArn port : Json) :
    ((∀ item ∈ fleet.listeners, ¬Client.OnPort loadBalancerArn port item) ∧
      (cloud.describe loadBalancerArn port).ending fleet = (.ok none, fleet)) ∨
    ∃ item ∈ fleet.listeners, Client.OnPort loadBalancerArn port item ∧
      (cloud.describe loadBalancerArn port).ending fleet =
        (((Listener.ofDocument item).mapError Stop.ofFault).map some, fleet) := by
  let params := [("LoadBalancerArn", loadBalancerArn)]
  let pages := fleet.pages?.getD (fleet.pages loadBalancerArn)
  have hcall : (client.describe params fleet).result = .ok (pages.map Run.pure) :=
    congrArg Prod.fst (Run.ending_bind_of_ok _ (h.ending_send .describe params))
  have hstate := (h.describe loadBalancerArn port).1
  obtain ⟨fleet', -, -, hend⟩ := Client.ending_describe keeps_client port h.unscripted
  rw [show client.cloud = cloud from rfl] at hend
  rcases hend with ⟨reason, hstops, -⟩ | ⟨hnone, hend⟩ | ⟨item, hm, hport, hend⟩
  · -- neither the call nor a page stops
    rcases hstops with hstop | ⟨fetches, hfetches, fetch, hm, s', hstop⟩
    · cases hcall.symm.trans hstop
    · cases hcall.symm.trans hfetches
      obtain ⟨page, -, rfl⟩ := List.mem_map.mp hm
      cases hstop
  · rw [hend] at hstate
    obtain rfl : fleet' = fleet := hstate
    exact .inl ⟨hnone, hend⟩
  · rw [hend] at hstate
    obtain rfl : fleet' = fleet := hstate
    exact .inr ⟨item, hm, hport, hend⟩

/-- A ready fleet creates what it is asked for, and what it answers can be read. -/
theorem ending_create (h : fleet.Ready) (loadBalancer : String) {config : ListenerConfig}
    {n : ℤ} (ha : ∀ a ∈ config.defaultActions, a.Managed) (hp : config.port.IsInteger n) :
    ∃ created fleet',
      (cloud.create (.str loadBalancer) config).ending fleet = (.ok created, fleet') := by
  let params := ("LoadBalancerArn", Json.str loadBalancer) :: config.toApi
  let card : Card := ⟨loadBalancer, fleet.created + 1, n⟩
  have hcard : card.IsOf (Client.described card.arn params) := Card.isOf_described ha hp
  obtain ⟨created, hcreated⟩ := hcard.reads
  have hcall : (client.create params).ending fleet =
      (.ok (answerWith (fleet.create params).2), (fleet.create params).1) := by
    refine (Run.ending_bind_of_ok _ (h.ending_send .create params)).trans ?_
    dsimp only [Run.ending]
    rw [h.unscripted.1]
  have hstored : Listener.ofDocument (fleet.create params).2 = .ok created := hcreated
  have hend := Client.ending_create client (.str loadBalancer) config fleet
  rw [hcall] at hend
  dsimp only [Except.bind] at hend
  rw [Client.listenerOf_answerWith, hstored] at hend
  exact ⟨created, _, hend⟩

end Ready

end Fleet

namespace Reconciler

/-! ## The listener step -/

variable {r : Reconciler Fleet} {request : Request} {config : ListenerConfig} {live : Listener}
variable {fleet : Fleet}

theorem sent_createListener (hr : r.cloud = Fleet.cloud) (loadBalancerArn : Json) :
    (r.createListener loadBalancerArn config).sent fleet =
      [(.create, ("LoadBalancerArn", loadBalancerArn) :: config.toApi)] := by
  have hemit : (Run.emit (.createListener loadBalancerArn config) : Run Fleet Unit).Hides
    Effect.change := Run.hides_emit rfl
  rw [createListener, hr, ← Fleet.sent_cloud_create loadBalancerArn config fleet]
  exact hemit.seen_bind (Run.ending_emit ..)

theorem sent_modifyListener (hr : r.cloud = Fleet.cloud) (listenerArn : Json) :
    (r.modifyListener listenerArn config).sent fleet =
      [(.modify, ("ListenerArn", listenerArn) :: config.toApi)] := by
  have hemit : (Run.emit (.modifyListener listenerArn config) : Run Fleet Unit).Hides
    Effect.change := Run.hides_emit rfl
  rw [modifyListener, hr, ← Fleet.sent_cloud_modify listenerArn config fleet]
  exact hemit.seen_bind (Run.ending_emit ..)

theorem sent_applyConfig_create (hr : r.cloud = Fleet.cloud) (hi : request.instance? = none) :
    (r.applyConfig request config).sent fleet =
      [(.create, ("LoadBalancerArn", request.loadBalancerArn) :: config.toApi)] := by
  rw [applyConfig, (Request.operation_eq_create_iff request).mpr hi,
    ← sent_createListener hr request.loadBalancerArn]
  exact (Run.seen_bind_of_hides fun _ => Run.hides_pure _).trans (seen_wrapping ..)

theorem sent_applyConfig_modify (hr : r.cloud = Fleet.cloud) (hi : request.instance? = some live)
    (hd : live.needsUpdate config = .ok true) :
    (r.applyConfig request config).sent fleet =
      [(.modify, ("ListenerArn", live.arn) :: config.toApi)] := by
  have hread := Run.ending_read (live.needsUpdate config) fleet
  have hhides : (Run.read (live.needsUpdate config) : Run Fleet Bool).Hides Effect.change :=
    Run.hides_read _
  rw [hd] at hread hhides
  rw [applyConfig, operation_of_instance hi, ← sent_modifyListener hr live.arn]
  dsimp only
  rw [hd]
  refine (hhides.seen_bind hread).trans ?_
  exact (Run.seen_bind_of_hides fun _ => Run.hides_pure _).trans (seen_wrapping ..)

/-- Nothing is sent for a listener that has not drifted, or cannot be compared. -/
theorem sent_applyConfig_quiet (hi : request.instance? = some live)
    (hd : live.needsUpdate config ≠ .ok true) : (r.applyConfig request config).sent fleet = [] := by
  have hread := Run.ending_read (live.needsUpdate config) fleet
  have hhides : (Run.read (live.needsUpdate config) : Run Fleet Bool).Hides Effect.change :=
    Run.hides_read _
  rw [applyConfig, operation_of_instance hi]
  dsimp only
  rcases hneeds : live.needsUpdate config with fault | _ | _
  · rw [hneeds] at hread hhides
    exact (Run.seen_bind_of_error _ hread).trans (hhides fleet)
  · rw [hneeds] at hread hhides
    exact (hhides.seen_bind hread).trans (Run.hides_pure _ fleet)
  · exact absurd hneeds hd

/-! ## The pass -/

theorem hides_report (r : Reconciler Fleet) (request : Request) (result : Except Stop Result) :
    (r.report request result).Hides Effect.change := by
  have hlog (level : LogLevel) (message : String) :
      (Run.log level .reconciler message : Run Fleet Unit).Hides Effect.change :=
    Run.hides_log (fun _ => rfl) level .reconciler message
  have hpublish (e : Event) : (r.publish e).Hides Effect.change := by
    unfold publish
    split
    · exact Run.hides_emit rfl
    · exact Run.hides_pure _
  unfold report
  split
  · exact (hlog _ _).bind fun _ => (hpublish _).bind fun _ => Run.hides_pure _
  · exact (hlog _ _).bind fun _ => (hpublish _).bind fun _ => Run.hides_stop _
  · exact Run.hides_stop _

theorem hides_reconcileRules (hrules : r.rules = .unmanaged) (listenerArn : Json) :
    (r.reconcileRules listenerArn request).Hides Effect.change := by
  have hlog (message : String) :
      (Run.log .info .reconciler message : Run Fleet Unit).Hides Effect.change :=
    Run.hides_log (fun _ => rfl) .info .reconciler message
  rw [reconcileRules, hrules]
  exact (Run.hides_emit rfl).bind fun _ => hlog _

theorem sent_reconcile_of_build_error {failure : Failure} (hb : request.build = .error failure) :
    (r.reconcile request).sent fleet = [] := by
  have hend : (Run.ofExcept request.build : Run Fleet ListenerConfig).ending fleet =
      (.error (.failed failure), fleet) := by
    rw [Run.ending_ofExcept, hb]
    rfl
  refine (Run.seen_bind_of_hides fun result => hides_report r request result).trans ?_
  show (r.steps request).seen Effect.change fleet = []
  rw [steps, Run.seen_bind_of_error _ hend, Run.hides_ofExcept]

/-- A pass sends what its listener step sends. -/
theorem sent_reconcile (hrules : r.rules = .unmanaged) (hb : request.build = .ok config) :
    (r.reconcile request).sent fleet = (r.applyConfig request config).sent fleet := by
  have hend : (Run.ofExcept request.build : Run Fleet ListenerConfig).ending fleet =
      (.ok config, fleet) := by
    rw [Run.ending_ofExcept, hb]
    rfl
  refine (Run.seen_bind_of_hides fun result => hides_report r request result).trans ?_
  show (r.steps request).seen Effect.change fleet = _
  rw [steps, (Run.hides_ofExcept _).seen_bind hend]
  refine Run.seen_bind_of_hides fun result => ?_
  exact (hides_wrapping _ (hides_reconcileRules hrules _)).bind fun _ => Run.hides_pure _

/-- With rules that are managed elsewhere, a pass has the result of its listener step. -/
theorem result_reconcile (hrules : r.rules = .unmanaged) (hb : request.build = .ok config)
    {result : Except Stop Result} {fleet' : Fleet}
    (ha : (r.applyConfig request config).ending fleet = (result, fleet')) :
    (r.reconcile request fleet).result = result := by
  have hend := ending_reconcile r request fleet
  cases result with
  | error reason =>
    rw [ending_steps_of_error r hb ha] at hend
    exact congrArg Prod.fst hend
  | ok result =>
    rw [ending_steps_of_ok r hb ha, hrules] at hend
    exact congrArg Prod.fst hend

/-- How a pass over the listener that is live ends, and what it sends. -/
inductive Course (request : Request) (live? : Option Listener) :
    Except Stop Result → List (Call × List (String × Json)) → Prop
  | unbuilt {failure : Failure} (hb : request.build = .error failure) :
    Course request live? (.error (.failed failure)) []
  | creates {config : ListenerConfig} {created : Listener} (hb : request.build = .ok config)
    (hlive : live? = none) :
    Course request live? (.ok ⟨created, .created⟩)
      [(.create, ("LoadBalancerArn", request.loadBalancerArn) :: config.toApi)]
  | breaks {config : ListenerConfig} {live : Listener} {fault : Fault}
    (hb : request.build = .ok config) (hlive : live? = some live)
    (hd : live.drifts config = .error fault) :
    Course request live? (.error (Stop.ofFault fault)) []
  | keeps {config : ListenerConfig} {live : Listener} (hb : request.build = .ok config)
    (hlive : live? = some live) (hd : live.drifts config = .ok []) :
    Course request live? (.ok ⟨live, .unchanged⟩) []
  | modifies {config : ListenerConfig} {live : Listener} {drifts : List Drift}
    {result : Except Stop Result} (hb : request.build = .ok config) (hlive : live? = some live)
    (hd : live.drifts config = .ok drifts) (hne : drifts ≠ []) :
    Course request live? result [(.modify, ("ListenerArn", live.arn) :: config.toApi)]

/-- A live listener that has drifted is modified. -/
theorem Course.sent_eq_of_drifts {drifts : List Drift} {result : Except Stop Result}
    {sent : List (Call × List (String × Json))} (h : Course request (some live) result sent)
    (hb : request.build = .ok config) (hd : live.drifts config = .ok drifts) (hne : drifts ≠ []) :
    sent = [(.modify, ("ListenerArn", live.arn) :: config.toApi)] := by
  cases h with
  | unbuilt hb' => cases hb.symm.trans hb'
  | creates _ hlive => cases hlive
  | breaks hb' hlive hd' =>
    cases hb.symm.trans hb'
    cases hlive
    cases hd.symm.trans hd'
  | keeps hb' hlive hd' =>
    cases hb.symm.trans hb'
    cases hlive
    cases hd.symm.trans hd'
    exact absurd rfl hne
  | modifies hb' hlive _ _ =>
    cases hb.symm.trans hb'
    cases hlive
    rfl

/-- A pass over a ready fleet takes one of these courses. -/
theorem course_of_converge {live? : Option Listener} (hr : r.cloud = Fleet.cloud)
    (hrules : r.rules = .unmanaged) (hready : fleet.Ready) (ht : request.Typed)
    (hdescribe : (Fleet.cloud.describe request.loadBalancerArn request.port.port fleet).result =
      .ok live?) :
    Course request live? (r.converge request fleet).result ((r.converge request).sent fleet) := by
  obtain ⟨hstate, hsent⟩ := hready.describe request.loadBalancerArn request.port.port
  have hend : (r.cloud.describe request.loadBalancerArn request.port.port).ending fleet =
      (.ok live?, fleet) := by
    rw [hr]
    exact Prod.ext hdescribe hstate
  let observed : Request := { request with instance? := live? }
  have hseen : observed.build = request.build := rfl
  have hresult : (r.converge request fleet).result = (r.reconcile observed fleet).result :=
    congrArg Prod.fst (ending_converge_of_ok hend)
  have hsends : (r.converge request).sent fleet = (r.reconcile observed).sent fleet := by
    refine (Run.seen_bind_of_ok _ hend).trans ?_
    rw [hr, show Run.seen Effect.change _ fleet = [] from hsent]
    rfl
  rw [hresult, hsends]
  rcases hb : request.build with failure | config
  · have hfails := congrArg Prod.fst (ending_reconcile_of_build_error r fleet (hseen.trans hb))
    dsimp only [Run.ending] at hfails
    rw [hfails, sent_reconcile_of_build_error (hseen.trans hb)]
    exact .unbuilt hb
  rw [sent_reconcile hrules (hseen.trans hb)]
  have hdesires := Request.desires_of_build hb
  obtain ⟨lb, hlb⟩ := ht.loadBalancerArn
  obtain ⟨n, hn⟩ := ht.port
  rw [← hdesires.port] at hn
  cases live? with
  | none =>
    have hi : observed.instance? = none := rfl
    obtain ⟨created, fleet', hcreate⟩ :=
      hready.ending_create lb (hdesires.managed ht.distinct) hn
    have happly := ending_applyConfig_create r config fleet hi
    rw [show observed.loadBalancerArn = .str lb from hlb, hr, hcreate] at happly
    rw [sent_applyConfig_create hr hi, result_reconcile hrules (hseen.trans hb) happly]
    exact .creates hb rfl
  | some live =>
    have hi : observed.instance? = some live := rfl
    rcases hd : live.drifts config with fault | drifts
    · have hneeds : live.needsUpdate config = .error fault := by
        rw [Listener.needsUpdate, bind_of_eq_error hd]
      have hquiet : live.needsUpdate config ≠ .ok true := by simp [hneeds]
      have happly := ending_applyConfig_fault r fleet hi hneeds
      rw [sent_applyConfig_quiet hi hquiet, result_reconcile hrules (hseen.trans hb) happly]
      exact .breaks hb rfl hd
    · have hneeds := needsUpdate_eq_ok_of_drifts hd
      cases drifts with
      | nil =>
        have hquiet : live.needsUpdate config ≠ .ok true := by simp [hneeds]
        have happly := ending_applyConfig_keep r fleet hi hneeds
        rw [sent_applyConfig_quiet hi hquiet, result_reconcile hrules (hseen.trans hb) happly]
        exact .keeps hb rfl hd
      | cons drift rest =>
        rw [sent_applyConfig_modify hr hi hneeds]
        exact .modifies hb rfl hd (List.cons_ne_nil _ _)

end Reconciler

end AlbListener

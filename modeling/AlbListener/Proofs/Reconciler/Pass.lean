import AlbListener.Proofs.Run
import AlbListener.Reconciler

/-!
# How a pass ends

The reports of a pass have no part in how it ends, so a pass ends as its steps do: with the
failure of the first step that fails, and otherwise with the listener.

Results:
* `ending_reconcile`: a pass ends as its steps.
* `ending_steps_of_ok`, `ending_steps_of_error`: how the steps end, from how the listener step
  ends.
* `ending_applyConfig_create`, `ending_applyConfig_modify`, `ending_applyConfig_keep`: how the
  listener step ends.
* `type_of_reconcile`: what a pass that succeeds has done to a listener that has drifted.
-/

namespace AlbListener

/-- A stop whose failure gets another reason. -/
def Stop.wrapped (wrap : Failure → Failure) : Stop → Stop
  | .cancelled => .cancelled
  | .failed failure => .failed (wrap failure)

namespace Reconciler

variable {σ α β : Type}

theorem ending_wrapping (wrap : Failure → Failure) (run : Run σ α) (s : σ) :
    (wrapping wrap run).ending s =
      ((run.ending s).1.mapError (Stop.wrapped wrap), (run.ending s).2) := by
  rw [wrapping, Run.ending_bind_of_ok _ (Run.ending_attempt run s)]
  rcases (run.ending s).1 with (_ | failure) | value <;> rfl

/-- A run whose failures get another reason, and whose value goes into a result. -/
theorem ending_wrapping_map (wrap : Failure → Failure) (run : Run σ α) (f : α → β) (s : σ) :
    (wrapping wrap run >>= fun value => Pure.pure (f value)).ending s =
      (((run.ending s).1.mapError (Stop.wrapped wrap)).map f, (run.ending s).2) := by
  have hw := ending_wrapping wrap run s
  rcases hr : (run.ending s).1 with stop | value
  · rw [hr] at hw
    rw [Run.ending_bind_of_error _ hw]
    rfl
  · rw [hr] at hw
    rw [Run.ending_bind_of_ok _ hw]
    rfl

theorem ending_createListener (r : Reconciler σ) (arn : Json) (config : ListenerConfig) (s : σ) :
    (r.createListener arn config).ending s = (r.cloud.create arn config).ending s := by
  rw [createListener, Run.ending_bind_of_ok _ (Run.ending_emit _ s)]

theorem ending_modifyListener (r : Reconciler σ) (arn : Json) (config : ListenerConfig) (s : σ) :
    (r.modifyListener arn config).ending s = (r.cloud.modify arn config).ending s := by
  rw [modifyListener, Run.ending_bind_of_ok _ (Run.ending_emit _ s)]

theorem ending_reconcileRules (r : Reconciler σ) (arn : Json) (request : Request) (s : σ) :
    (r.reconcileRules arn request).ending s =
      (r.rules arn request.ingress request.annotations request.targetGroups).ending s := by
  rw [reconcileRules, Run.ending_bind_of_ok _ (Run.ending_emit _ s)]

/-! ## Reports -/

theorem ending_publish (r : Reconciler σ) (e : Event) (s : σ) :
    (r.publish e).ending s = (.ok (), s) := by
  unfold publish
  split <;> rfl

theorem ending_report (r : Reconciler σ) (request : Request) (result : Except Stop Result) (s : σ) :
    (r.report request result).ending s = (result, s) := by
  unfold report
  split
  · rw [Run.ending_bind_of_ok _ (Run.ending_log ..),
      Run.ending_bind_of_ok _ (ending_publish ..), Run.ending_pure]
  · rw [Run.ending_bind_of_ok _ (Run.ending_log ..),
      Run.ending_bind_of_ok _ (ending_publish ..), Run.fail, Run.ending_stop]
  · exact Run.ending_stop _ s

/-- A pass ends as its steps. -/
theorem ending_reconcile (r : Reconciler σ) (request : Request) (s : σ) :
    (r.reconcile request).ending s = (r.steps request).ending s := by
  rw [reconcile, Run.ending_bind_of_ok _ (Run.ending_attempt _ s), ending_report]

/-! ## The listener step -/

theorem ending_applyConfig_create (r : Reconciler σ) {request : Request} (config : ListenerConfig)
    (s : σ) (h : request.instance? = none) :
    (r.applyConfig request config).ending s =
      ((((r.cloud.create request.loadBalancerArn config).ending s).1.mapError
          (Stop.wrapped asCreateFailure)).map fun listener => ⟨listener, .created⟩,
        ((r.cloud.create request.loadBalancerArn config).ending s).2) := by
  rw [applyConfig, (Request.operation_eq_create_iff request).mpr h]
  dsimp only
  rw [ending_wrapping_map, ending_createListener]

theorem operation_of_instance {request : Request} {live : Listener}
    (h : request.instance? = some live) : request.operation = .update live := by
  rw [Request.operation, h]

theorem ending_applyConfig_modify (r : Reconciler σ) {request : Request} {config : ListenerConfig}
    {live : Listener} (s : σ) (h : request.instance? = some live)
    (hd : live.needsUpdate config = .ok true) :
    (r.applyConfig request config).ending s =
      ((((r.cloud.modify live.arn config).ending s).1.mapError
          (Stop.wrapped (asUpdateFailure live.arn))).map fun listener => ⟨listener, .modified⟩,
        ((r.cloud.modify live.arn config).ending s).2) := by
  rw [applyConfig, operation_of_instance h]
  dsimp only
  rw [Run.ending_bind_of_ok _ (Run.ending_read _ s |>.trans (by rw [hd]; rfl)), if_pos rfl,
    ending_wrapping_map, ending_modifyListener]

theorem ending_applyConfig_keep (r : Reconciler σ) {request : Request} {config : ListenerConfig}
    {live : Listener} (s : σ) (h : request.instance? = some live)
    (hd : live.needsUpdate config = .ok false) :
    (r.applyConfig request config).ending s = (.ok ⟨live, .unchanged⟩, s) := by
  rw [applyConfig, operation_of_instance h]
  dsimp only
  rw [Run.ending_bind_of_ok _ (Run.ending_read _ s |>.trans (by rw [hd]; rfl)),
    if_neg Bool.false_ne_true, Run.ending_pure]

theorem ending_applyConfig_fault (r : Reconciler σ) {request : Request} {config : ListenerConfig}
    {live : Listener} {fault : Fault} (s : σ) (h : request.instance? = some live)
    (hd : live.needsUpdate config = .error fault) :
    (r.applyConfig request config).ending s = (.error (Stop.ofFault fault), s) := by
  rw [applyConfig, operation_of_instance h]
  dsimp only
  rw [Run.ending_bind_of_error _ (Run.ending_read _ s |>.trans (by rw [hd]; rfl))]

/-! ## All steps -/

theorem ending_steps_of_error (r : Reconciler σ) {request : Request} {config : ListenerConfig}
    {s s' : σ} {stop : Stop} (h : request.build = .ok config)
    (ha : (r.applyConfig request config).ending s = (.error stop, s')) :
    (r.steps request).ending s = (.error stop, s') := by
  rw [steps, Run.ending_bind_of_ok _ (Run.ending_ofExcept _ s |>.trans (by rw [h]; rfl)),
    Run.ending_bind_of_error _ ha]

theorem ending_steps_of_ok (r : Reconciler σ) {request : Request} {config : ListenerConfig}
    {s s' : σ} {result : Result} (h : request.build = .ok config)
    (ha : (r.applyConfig request config).ending s = (.ok result, s')) :
    (r.steps request).ending s =
      let rules := (r.rules result.listener.arn request.ingress request.annotations
        request.targetGroups).ending s'
      ((rules.1.mapError (Stop.wrapped (asRuleFailure result.listener.arn))).map fun _ => result,
        rules.2) := by
  rw [steps, Run.ending_bind_of_ok _ (Run.ending_ofExcept _ s |>.trans (by rw [h]; rfl)),
    Run.ending_bind_of_ok _ ha, ending_wrapping_map, ending_reconcileRules]

/-- A pass whose desired state cannot be worked out changes nothing. -/
theorem ending_reconcile_of_build_error (r : Reconciler σ) {request : Request}
    {failure : Failure} (s : σ) (hb : request.build = .error failure) :
    (r.reconcile request).ending s = (.error (.failed failure), s) := by
  rw [ending_reconcile, steps,
    Run.ending_bind_of_error _ (Run.ending_ofExcept _ s |>.trans (by rw [hb]; rfl))]

/-- A pass that succeeds ends with what its listener step gave. -/
theorem ending_applyConfig_of_reconcile (r : Reconciler σ) {request : Request}
    {config : ListenerConfig} {s s' : σ} {result : Result} (h : request.build = .ok config)
    (hr : (r.reconcile request).ending s = (.ok result, s')) :
    ∃ s'', (r.applyConfig request config).ending s = (.ok result, s'') := by
  rw [ending_reconcile] at hr
  rcases ha : (r.applyConfig request config).ending s with ⟨reason | given, s''⟩
  · rw [ending_steps_of_error r h ha] at hr
    cases hr
  · rw [ending_steps_of_ok r h ha] at hr
    have hresult := congrArg Prod.fst hr
    dsimp only at hresult
    rcases hrules : ((r.rules given.listener.arn request.ingress request.annotations
      request.targetGroups).ending s'').1 with reason | _
    · rw [hrules] at hresult
      cases hresult
    · rw [hrules] at hresult
      cases hresult
      exact ⟨s'', rfl⟩

/-- A pass that succeeds has modified the listener, unless it found that the listener is as it
    should be. -/
theorem type_of_reconcile (r : Reconciler σ) {request : Request} {config : ListenerConfig}
    {live : Listener} {s s' : σ} {result : Result} (hb : request.build = .ok config)
    (h : request.instance? = some live) (hd : live.needsUpdate config ≠ .ok false)
    (hr : (r.reconcile request).ending s = (.ok result, s')) : result.type = .modified := by
  obtain ⟨s'', happly⟩ := ending_applyConfig_of_reconcile r hb hr
  rcases hneeds : live.needsUpdate config with fault | _ | _
  · rw [ending_applyConfig_fault r s h hneeds] at happly
    cases happly
  · exact absurd hneeds hd
  · rw [ending_applyConfig_modify r s h hneeds] at happly
    rcases hmodify : ((r.cloud.modify live.arn config).ending s).1 with stop | modified
    · rw [hmodify] at happly
      cases happly
    · rw [hmodify] at happly
      cases happly
      rfl

/-- A pass over a listener that has not drifted ends as its rules do. -/
theorem ending_reconcile_keep (r : Reconciler σ) {request : Request} {config : ListenerConfig}
    {live : Listener} (s : σ) (hb : request.build = .ok config)
    (h : request.instance? = some live) (hd : live.needsUpdate config = .ok false) :
    (r.reconcile request).ending s =
      let rules := (r.rules live.arn request.ingress request.annotations
        request.targetGroups).ending s
      ((rules.1.mapError (Stop.wrapped (asRuleFailure live.arn))).map
        fun _ => ⟨live, .unchanged⟩, rules.2) := by
  rw [ending_reconcile, ending_steps_of_ok r hb (ending_applyConfig_keep r s h hd)]

/-- A pass that modified the listener ends as its rules do. -/
theorem ending_reconcile_modify (r : Reconciler σ) {request : Request} {config : ListenerConfig}
    {live modified : Listener} {s s' : σ} (hb : request.build = .ok config)
    (h : request.instance? = some live) (hd : live.needsUpdate config = .ok true)
    (hm : (r.cloud.modify live.arn config).ending s = (.ok modified, s')) :
    (r.reconcile request).ending s =
      let rules := (r.rules modified.arn request.ingress request.annotations
        request.targetGroups).ending s'
      ((rules.1.mapError (Stop.wrapped (asRuleFailure modified.arn))).map
        fun _ => ⟨modified, .modified⟩, rules.2) := by
  have happly := ending_applyConfig_modify r s h hd
  rw [hm] at happly
  rw [ending_reconcile, ending_steps_of_ok r hb happly]

end Reconciler

end AlbListener

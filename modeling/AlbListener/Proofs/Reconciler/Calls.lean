import AlbListener.Cloud.Fleet
import AlbListener.Proofs.Reconciler.Pass
import AlbListener.Proofs.Request.Desired

/-!
# The calls of a pass

`Reconciler.recorded` is a reconciler whose cloud and rules note every call that is made to
them before they answer it. A pass of it goes as it would go unrecorded, and the notes are the
calls of the pass: at most one to the cloud, then at most one to the rules.

Results:
* `records_reconcile`: recording changes nothing, and the notes are the calls of the pass.
* `calls_of_pass`: which calls a pass makes, from how the calls before end.
-/

namespace AlbListener

/-- A call that a pass makes to the cloud or to the rules. -/
inductive PassCall
  | create (loadBalancerArn : Json) (config : ListenerConfig)
  | modify (listenerArn : Json) (config : ListenerConfig)
  | describe (loadBalancerArn port : Json)
  | rules (listenerArn : Json) (ingress : Ingress) (annotations : Annotations)
      (groups : TargetGroups)

/-! ## Recording -/

namespace Run

variable {σ α β : Type}

/-- A run that notes a call first. -/
def noting (call : PassCall) (run : Run σ α) : Run (σ × List PassCall) α := fun s =>
  let outcome := run s.1
  ⟨outcome.result, (outcome.state, s.2 ++ [call]), outcome.trace⟩

/-- A run goes as another one does, and notes calls that depend on the state at its start. -/
def Records (recorded : Run (σ × List PassCall) α) (run : Run σ α)
    (calls : σ → List PassCall) : Prop :=
  ∀ s log, recorded (s, log) = ⟨(run s).result, ((run s).state, log ++ calls s), (run s).trace⟩

/-- The calls that follow a step which ended somehow: none if it failed. -/
def callsAfter (result : Except Stop α) (calls : α → List PassCall) : List PassCall :=
  match result with
  | .ok value => calls value
  | .error _ => []

theorem callsAfter_mapError_map (result : Except Stop α) (wrap : Stop → Stop) (f : α → β)
    (calls : β → List PassCall) :
    callsAfter ((result.mapError wrap).map f) calls =
      callsAfter result fun value => calls (f value) := by
  cases result <;> rfl

theorem records_noting (call : PassCall) (run : Run σ α) :
    Records (noting call run) run fun _ => [call] := fun _ _ => rfl

theorem records_pure (value : α) :
    Records (Pure.pure value) (Pure.pure value : Run σ α) fun _ => [] := fun s log => by
  rw [List.append_nil]
  rfl

theorem records_emit (effect : Effect) : Records (emit effect) (emit effect : Run σ Unit)
    fun _ => [] := fun s log => by
  rw [List.append_nil]
  rfl

theorem records_stop (reason : Stop) :
    Records (stop reason) (stop reason : Run σ α) fun _ => [] := fun s log => by
  rw [List.append_nil]
  rfl

namespace Records

variable {recorded : Run (σ × List PassCall) α} {run : Run σ α} {calls : σ → List PassCall}
variable {next' : α → Run (σ × List PassCall) β} {next : α → Run σ β}

theorem attempt (h : Records recorded run calls) : Records recorded.attempt run.attempt calls :=
  fun s log => by rw [Run.attempt, h]; rfl

/-- Nothing is called after a run that stops. -/
theorem bind (more : α → σ → List PassCall) (h : Records recorded run calls)
    (hn : ∀ value, Records (next' value) (next value) (more value)) :
    Records (recorded >>= next') (run >>= next) fun s =>
      calls s ++ callsAfter (run s).result fun value => more value (run s).state := by
  intro s log
  show Run.bind recorded next' (s, log) = ⟨(Run.bind run next s).result,
    ((Run.bind run next s).state, log ++ _), (Run.bind run next s).trace⟩
  rw [Run.bind, Run.bind, h]
  rcases hr : (run s).result with reason | value
  · simp only [hr, callsAfter, List.append_nil]
  · simp only [hr, callsAfter, hn value _ _, List.append_assoc]

theorem congr {calls' : σ → List PassCall} (h : Records recorded run calls)
    (hc : ∀ s, calls s = calls' s) : Records recorded run calls' := (funext hc) ▸ h

theorem bind_quiet (h : Records recorded run calls)
    (hn : ∀ value, Records (next' value) (next value) fun _ => []) :
    Records (recorded >>= next') (run >>= next) calls := by
  refine (h.bind _ hn).congr fun s => ?_
  rcases (run s).result with reason | value <;> exact List.append_nil _

theorem emit_bind (effect : Effect) {recorded : Unit → Run (σ × List PassCall) β}
    {run : Unit → Run σ β} {calls : σ → List PassCall} (h : Records (recorded ()) (run ()) calls) :
    Records (emit effect >>= recorded) (emit effect >>= run) calls :=
  ((records_emit effect).bind (fun _ => calls) fun _ => h).congr fun _ => List.nil_append _

/-- After a reading step the calls are those for its value. -/
theorem ofExcept_bind {step : Except Failure α} (more : α → σ → List PassCall)
    (hn : ∀ value, step = .ok value → Records (next' value) (next value) (more value)) :
    Records (ofExcept step >>= next') (ofExcept step >>= next) fun s =>
      callsAfter (step.mapError Stop.failed) fun value => more value s := by
  intro s log
  cases step with
  | error failure => exact records_stop (.failed failure) s log
  | ok value => exact hn value rfl s log

end Records

end Run

namespace Reconciler

open Run (Records callsAfter)

variable {σ α : Type}

/-- A reconciler that notes the calls that are made to its cloud and its rules. -/
def recorded (r : Reconciler σ) : Reconciler (σ × List PassCall) where
  cloud :=
    { create := fun arn config => Run.noting (.create arn config) (r.cloud.create arn config)
      modify := fun arn config => Run.noting (.modify arn config) (r.cloud.modify arn config)
      describe := fun arn port => Run.noting (.describe arn port) (r.cloud.describe arn port) }
  rules := fun arn ingress annotations groups =>
    Run.noting (.rules arn ingress annotations groups) (r.rules arn ingress annotations groups)
  announces := r.announces
  now := r.now

/-- The calls of the listener step. -/
def listenerCalls (request : Request) (config : ListenerConfig) : List PassCall :=
  match request.operation with
  | .create => [.create request.loadBalancerArn config]
  | .update live =>
    match live.needsUpdate config with
    | .ok true => [.modify live.arn config]
    | _ => []

/-- The call that has the rules of a listener reconciled. -/
def rulesCall (request : Request) (listenerArn : Json) : PassCall :=
  .rules listenerArn request.ingress request.annotations request.targetGroups

/-! ## Recording a pass -/

theorem records_wrapping {recorded : Run (σ × List PassCall) α} {run : Run σ α}
    {calls : σ → List PassCall} (wrap : Failure → Failure) (h : Records recorded run calls) :
    Records (wrapping wrap recorded) (wrapping wrap run) calls := by
  refine h.attempt.bind_quiet fun result => ?_
  rcases result with (_ | failure) | value
  · exact Run.records_stop _
  · exact Run.records_stop _
  · exact Run.records_pure _

theorem records_applyConfig (r : Reconciler σ) (request : Request) (config : ListenerConfig) :
    Records (r.recorded.applyConfig request config) (r.applyConfig request config)
      fun _ => listenerCalls request config := by
  unfold applyConfig listenerCalls
  cases request.operation with
  | create =>
    refine (records_wrapping _ ?_).bind_quiet fun _ => Run.records_pure _
    exact Records.emit_bind _ (Run.records_noting _ _)
  | update live =>
    refine (Records.ofExcept_bind
      (fun drifted _ => if drifted then [.modify live.arn config] else []) ?_).congr ?_
    · intro drifted _
      cases drifted with
      | true =>
        refine (records_wrapping _ ?_).bind_quiet fun _ => Run.records_pure _
        exact Records.emit_bind _ (Run.records_noting _ _)
      | false => exact Run.records_pure _
    · intro _
      dsimp only
      rcases live.needsUpdate config with fault | _ | _ <;> rfl

/-- The calls of a pass: those of the listener step, and if it succeeds the call that has the
    rules of its listener reconciled. -/
def passCalls (r : Reconciler σ) (request : Request) (s : σ) : List PassCall :=
  match request.build with
  | .error _ => []
  | .ok config => listenerCalls request config
      ++ callsAfter (r.applyConfig request config s).result
        fun result => [rulesCall request result.listener.arn]

theorem records_steps (r : Reconciler σ) (request : Request) :
    Records (r.recorded.steps request) (r.steps request) (r.passCalls request) := by
  refine (Records.ofExcept_bind
    (fun config s => listenerCalls request config
      ++ callsAfter (r.applyConfig request config s).result
        fun result => [rulesCall request result.listener.arn]) ?_).congr ?_
  · intro config _
    refine (records_applyConfig r request config).bind
      (fun result _ => [rulesCall request result.listener.arn]) fun result => ?_
    refine (records_wrapping _ ?_).bind_quiet fun _ => Run.records_pure _
    exact Records.emit_bind _ (Run.records_noting _ _)
  · intro s
    unfold passCalls
    cases request.build <;> rfl

theorem records_report (r : Reconciler σ) (request : Request) (result : Except Stop Result) :
    Records (r.recorded.report request result) (r.report request result) fun _ => [] := by
  have hpublish (e : Event) : Records (r.recorded.publish e) (r.publish e) fun _ => [] := by
    unfold publish
    rw [show r.recorded.announces = r.announces from rfl]
    split
    · exact Run.records_emit _
    · exact Run.records_pure _
  unfold report
  split
  · exact Records.emit_bind _ ((hpublish _).bind_quiet fun _ => Run.records_pure _)
  · exact Records.emit_bind _ ((hpublish _).bind_quiet fun _ => Run.records_stop _)
  · exact Run.records_stop _

/-- A pass goes as it would go unrecorded, and its calls are noted. -/
theorem records_reconcile (r : Reconciler σ) (request : Request) :
    Records (r.recorded.reconcile request) (r.reconcile request) (r.passCalls request) :=
  (records_steps r request).attempt.bind_quiet fun _ => records_report r request _

/-! ## The calls of a pass -/

/-- The calls that a pass makes, as they are noted. -/
def calls (r : Reconciler σ) (request : Request) (s : σ) : List PassCall :=
  (r.recorded.reconcile request (s, [])).state.2

theorem calls_eq_passCalls (r : Reconciler σ) (request : Request) (s : σ) :
    r.calls request s = r.passCalls request s := by
  rw [calls, records_reconcile]
  rfl

theorem needsUpdate_eq_ok_of_drifts {live : Listener} {config : ListenerConfig}
    {drifts : List Drift} (h : live.drifts config = .ok drifts) :
    live.needsUpdate config = .ok !drifts.isEmpty := by
  rw [Listener.needsUpdate, bind_of_eq_ok h]
  rfl

/-- What is called once the listener step has a listener. -/
theorem callsAfter_applyConfig_create (r : Reconciler σ) {request : Request}
    (config : ListenerConfig) (s : σ) (h : request.instance? = none) :
    (callsAfter (r.applyConfig request config s).result
        fun result => [rulesCall request result.listener.arn]) =
      callsAfter (r.cloud.create request.loadBalancerArn config s).result
        fun listener => [rulesCall request listener.arn] := by
  have hend := congrArg Prod.fst (ending_applyConfig_create r config s h)
  dsimp only [Run.ending] at hend
  rw [hend, Run.callsAfter_mapError_map]

theorem callsAfter_applyConfig_modify (r : Reconciler σ) {request : Request}
    {config : ListenerConfig} {live : Listener} (s : σ) (h : request.instance? = some live)
    (hd : live.needsUpdate config = .ok true) :
    (callsAfter (r.applyConfig request config s).result
        fun result => [rulesCall request result.listener.arn]) =
      callsAfter (r.cloud.modify live.arn config s).result
        fun listener => [rulesCall request listener.arn] := by
  have hend := congrArg Prod.fst (ending_applyConfig_modify r s h hd)
  dsimp only [Run.ending] at hend
  rw [hend, Run.callsAfter_mapError_map]

theorem passCalls_create (r : Reconciler σ) {request : Request} {config : ListenerConfig} (s : σ)
    (hb : request.build = .ok config) (h : request.instance? = none) :
    r.passCalls request s = .create request.loadBalancerArn config ::
      callsAfter (r.cloud.create request.loadBalancerArn config s).result
        fun listener => [rulesCall request listener.arn] := by
  rw [passCalls, hb]
  dsimp only
  rw [callsAfter_applyConfig_create r config s h, listenerCalls,
    (Request.operation_eq_create_iff request).mpr h]
  rfl

theorem passCalls_modify (r : Reconciler σ) {request : Request} {config : ListenerConfig}
    {live : Listener} (s : σ) (hb : request.build = .ok config)
    (h : request.instance? = some live) (hd : live.needsUpdate config = .ok true) :
    r.passCalls request s = .modify live.arn config ::
      callsAfter (r.cloud.modify live.arn config s).result
        fun listener => [rulesCall request listener.arn] := by
  rw [passCalls, hb]
  dsimp only
  rw [callsAfter_applyConfig_modify r s h hd, listenerCalls, operation_of_instance h]
  dsimp only
  rw [hd]
  rfl

theorem passCalls_keep (r : Reconciler σ) {request : Request} {config : ListenerConfig}
    {live : Listener} (s : σ) (hb : request.build = .ok config)
    (h : request.instance? = some live) (hd : live.needsUpdate config = .ok false) :
    r.passCalls request s = [rulesCall request live.arn] := by
  have hend := congrArg Prod.fst (ending_applyConfig_keep r s h hd)
  dsimp only [Run.ending] at hend
  rw [passCalls, hb]
  dsimp only
  rw [hend, listenerCalls, operation_of_instance h]
  dsimp only
  rw [hd]
  rfl

/-- A pass whose desired state cannot be worked out calls nothing. Otherwise it creates the
    listener if there is none, modifies the listener that there is exactly if it has drifted,
    and then, if there is a listener and no call has failed, has its rules reconciled. No call
    is made in any other place, and none is repeated. -/
theorem calls_of_pass (r : Reconciler σ) (request : Request) (s : σ)
    (hplain : ∀ live, request.instance? = some live → Certificate.AllPlain live.certificates) :
    r.recorded.reconcile request (s, []) = ⟨(r.reconcile request s).result,
      ((r.reconcile request s).state, r.calls request s), (r.reconcile request s).trace⟩ ∧
    (∀ failure, request.build = .error failure → r.calls request s = []) ∧
    ∀ config, request.build = .ok config →
      (request.instance? = none →
        r.calls request s = .create request.loadBalancerArn config ::
          callsAfter (r.cloud.create request.loadBalancerArn config s).result
            fun listener => [rulesCall request listener.arn]) ∧
      ∀ live, request.instance? = some live → ∃ drifts, live.drifts config = .ok drifts ∧
        (drifts ≠ [] → r.calls request s = .modify live.arn config ::
          callsAfter (r.cloud.modify live.arn config s).result
            fun listener => [rulesCall request listener.arn]) ∧
        (drifts = [] → r.calls request s = [rulesCall request live.arn]) := by
  rw [calls_eq_passCalls]
  refine ⟨records_reconcile r request s [], ?_, ?_⟩
  · intro failure hb
    rw [passCalls, hb]
  · intro config hb
    refine ⟨passCalls_create r s hb, fun live h => ?_⟩
    obtain ⟨drifts, hd⟩ :=
      Listener.exists_drifts (hplain live h) (Request.desires_of_build hb).plain
    have hneeds := needsUpdate_eq_ok_of_drifts hd
    refine ⟨drifts, hd, fun hne => ?_, fun hnil => ?_⟩
    · rw [List.isEmpty_eq_false_iff.mpr hne] at hneeds
      exact passCalls_modify r s hb h hneeds
    · rw [hnil] at hneeds
      exact passCalls_keep r s hb h hneeds

/-- A reconciler over a provider in memory. -/
def inMemory : Reconciler Fleet := ⟨Fleet.cloud, RuleReconciler.unmanaged, true, ""⟩

/-- A modify call that fails, for a listener that is not stored, is the only call. -/
theorem calls_of_pass_unknown :
    let live := Listener.created (.str "lost") (.str "lb") Request.bareConfig 81
    let request := { Request.bare with instance? := some live }
    (∀ found, request.instance? = some found → Certificate.AllPlain found.certificates) ∧
    inMemory.calls request (Fleet.ofListeners [] 0) =
      [.modify (.str "lost") Request.bareConfig] := by
  intro live request
  have hplain : ∀ found, request.instance? = some found →
      Certificate.AllPlain found.certificates := by
    intro found h c hc
    cases h
    cases hc
  obtain ⟨-, -, h⟩ := calls_of_pass inMemory request (Fleet.ofListeners [] 0) hplain
  obtain ⟨drifts, hdrifts, hmodify, -⟩ := (h _ Request.build_bare).2 live rfl
  have hne : drifts ≠ [] := by
    rintro rfl
    have hport : (Json.int 80).IsInteger 81 :=
      Json.equals_int_iff.mp (Listener.drifts_eq_nil_iff.mp hdrifts).2.1
    exact absurd (Number.ofInt_inj.mp (Option.some.inj hport)) (by decide)
  exact ⟨hplain, hmodify hne⟩

end Reconciler

end AlbListener

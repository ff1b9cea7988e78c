import AlbListener.Proofs.Reconciler.Events
import AlbListener.Proofs.Secret.Cloud
import AlbListener.Proofs.Secret.Request

/-!
# Passes with other client secrets

A pass over a request and a pass over its twin, against clouds that differ only in client secrets,
take the same steps: the desired listeners are twins, drift is found on the same fields, the same
calls are made, and both end alike. Only what the calls pass differs, and the time that events bear.

Results:
* `Reconciler.Twin.converge`: passes over twins cannot be told apart.
* `Reconciler.Twin.driftedFields`: drift is found on the same fields.
* `Reconciler.sight_of_twin`: whatever is told of a pass is told of its twin.
-/

namespace AlbListener

variable {σ γ : Type} {pick : Effect → Option γ} {S : σ → σ → Prop}

/-- Results of passes over twins. -/
structure Result.Twin (result result' : Result) : Prop where
  listener : result.listener.Twin result'.listener
  type : result.type = result'.type

/-- What brings rules in line and does not tell annotations apart that differ only in client
    secrets. -/
def RuleReconciler.Twin (pick : Effect → Option γ) (S : σ → σ → Prop)
    (rules rules' : RuleReconciler σ) : Prop :=
  ∀ (arn : Json) (ingress : Ingress) (groups : TargetGroups)
    {annotations annotations' : Annotations}, annotations.Twin annotations' →
    Run.Twin pick S Eq (rules arn ingress annotations groups)
      (rules' arn ingress annotations' groups)

theorem RuleReconciler.unmanaged_twin : RuleReconciler.Twin pick S unmanaged unmanaged :=
  fun _ _ _ _ _ _ => Run.twin_log _ _ _

namespace Reconciler

/-- Reconcilers that make the same of what differs only in client secrets. -/
structure Twin (pick : Effect → Option γ) (S : σ → σ → Prop) (r r' : Reconciler σ) : Prop where
  calls : HidesCalls pick
  cloud : r.cloud.Twin pick S r'.cloud
  rules : RuleReconciler.Twin pick S r.rules r'.rules
  announces : r.announces = r'.announces
  publish : ∀ e : Event, pick (.publish { e with timestamp := .str r.now }) =
    pick (.publish { e with timestamp := .str r'.now })

/-- The fields on which the live listener of a request has drifted, if there is one. -/
def driftedFields (r : Reconciler σ) (request : Request) : Run σ (Option (List String)) := do
  let config ← Run.ofExcept request.build
  match ← r.cloud.describe request.loadBalancerArn request.port.port with
  | none => return none
  | some live => return some ((← Run.read (live.drifts config)).map Drift.field)

variable {r r' : Reconciler σ} {request request' : Request}

/-! ## Steps -/

theorem twin_wrapping {α α' : Type} {R : α → α' → Prop} {run : Run σ α} {run' : Run σ α'}
    (wrap : Failure → Failure) (h : Run.Twin pick S R run run') :
    Run.Twin pick S R (wrapping wrap run) (wrapping wrap run') := by
  refine h.attempt.bind fun result result' hresult => ?_
  cases hresult with
  | ok ha => exact Run.twin_pure ha
  | @error reason _ he =>
    subst he
    cases reason with
    | cancelled => exact Run.twin_stop _
    | failed failure => exact Run.twin_stop _

namespace Twin

theorem createListener (h : r.Twin pick S r') (arn : Json) {config config' : ListenerConfig}
    (hc : config.Twin config') :
    Run.Twin pick S Listener.Twin (r.createListener arn config) (r'.createListener arn config') :=
  (Run.twin_emit ((h.calls.create arn config).trans (h.calls.create arn config').symm)).bind
    fun _ _ _ => h.cloud.create arn hc

theorem modifyListener (h : r.Twin pick S r') (arn : Json) {config config' : ListenerConfig}
    (hc : config.Twin config') :
    Run.Twin pick S Listener.Twin (r.modifyListener arn config) (r'.modifyListener arn config') :=
  (Run.twin_emit ((h.calls.modify arn config).trans (h.calls.modify arn config').symm)).bind
    fun _ _ _ => h.cloud.modify arn hc

theorem reconcileRules (h : r.Twin pick S r') (arn : Json) (hr : request.Twin request') :
    Run.Twin pick S Eq (r.reconcileRules arn request) (r'.reconcileRules arn request') := by
  unfold Reconciler.reconcileRules
  rw [hr.ingress, hr.targetGroups]
  exact (Run.twin_emit ((h.calls.rules ..).trans (h.calls.rules ..).symm)).bind
    fun _ _ _ => h.rules _ _ _ hr.annotations

/-- Twins are created, modified or left as they are alike. -/
theorem applyConfig (h : r.Twin pick S r') (hr : request.Twin request')
    {config config' : ListenerConfig} (hc : config.Twin config') :
    Run.Twin pick S Result.Twin (r.applyConfig request config)
      (r'.applyConfig request' config') := by
  have hlive := hr.instance?
  unfold Reconciler.applyConfig Request.operation
  rw [hr.loadBalancerArn]
  generalize request.instance? = live?, request'.instance? = live?' at hlive
  cases hlive with
  | none =>
    exact (twin_wrapping _ (h.createListener _ hc)).bind fun _ _ hl => Run.twin_pure ⟨hl, rfl⟩
  | some hl =>
    dsimp only
    rw [Listener.needsUpdate_twin hl hc, hl.arn]
    refine (Run.twin_read (.same _)).bind_same fun drifted => ?_
    split_ifs
    · exact (twin_wrapping _ (h.modifyListener _ hc)).bind fun _ _ hl => Run.twin_pure ⟨hl, rfl⟩
    · exact Run.twin_pure ⟨hl, rfl⟩

theorem steps (h : r.Twin pick S r') (hr : request.Twin request') :
    Run.Twin pick S Result.Twin (r.steps request) (r'.steps request') := by
  refine (Run.twin_ofExcept hr.build).bind fun config config' hc => ?_
  refine (h.applyConfig hr hc).bind fun result result' hresult => ?_
  rw [hresult.listener.arn]
  exact (twin_wrapping _ (h.reconcileRules _ hr)).bind fun _ _ _ => Run.twin_pure hresult

/-! ## Reports -/

/-- Twin events are the same but for the time that they bear. -/
theorem announce (h : r.Twin pick S r') (hr : request.Twin request') (type : EventType) (arn : Json)
    (message : String) : Run.Twin pick S Eq (r.publish (r.event request type arn message))
      (r'.publish (r'.event request' type arn message)) := by
  have hevent := h.publish (r.event request type arn message)
  unfold Reconciler.publish
  rw [h.announces]
  split_ifs
  · refine Run.twin_emit (hevent.trans ?_)
    unfold event
    rw [hr.loadBalancerArn, hr.port]
  · exact Run.twin_pure rfl

theorem report (h : r.Twin pick S r') (hr : request.Twin request')
    {ended ended' : Except Stop Result} (he : Alike Eq Result.Twin ended ended') :
    Run.Twin pick S Result.Twin (r.report request ended) (r'.report request' ended') := by
  cases he with
  | ok hresult =>
    unfold Reconciler.report
    dsimp only
    rw [hresult.listener.arn, hresult.type]
    refine (Run.twin_log _ _ _).bind_same fun _ => ?_
    exact (h.announce hr _ _ _).bind fun _ _ _ => Run.twin_pure hresult
  | error he =>
    subst he
    unfold Reconciler.report failureRecord
    split
    · contradiction
    · rw [hr.loadBalancerArn, hr.port]
      refine (Run.twin_log _ _ _).bind_same fun _ => ?_
      exact (h.announce hr _ _ _).bind fun _ _ _ => Run.twin_stop _
    · exact Run.twin_stop _

theorem reconcile (h : r.Twin pick S r') (hr : request.Twin request') :
    Run.Twin pick S Result.Twin (r.reconcile request) (r'.reconcile request') :=
  (h.steps hr).attempt.bind fun _ _ => h.report hr

theorem describe (h : r.Twin pick S r') (hr : request.Twin request') :
    Run.Twin pick S (Option.Rel Listener.Twin)
      (r.cloud.describe request.loadBalancerArn request.port.port)
      (r'.cloud.describe request'.loadBalancerArn request'.port.port) := by
  rw [hr.loadBalancerArn, hr.port]
  exact h.cloud.describe _ _

/-- Passes over twins cannot be told apart. -/
theorem converge (h : r.Twin pick S r') (hr : request.Twin request') :
    Run.Twin pick S Result.Twin (r.converge request) (r'.converge request') :=
  (h.describe hr).bind fun _ _ hlive => h.reconcile { hr with instance? := hlive }

/-- Drift is found on the same fields. -/
theorem driftedFields (h : r.Twin pick S r') (hr : request.Twin request') :
    Run.Twin pick S Eq (r.driftedFields request) (r'.driftedFields request') := by
  refine (Run.twin_ofExcept hr.build).bind fun config config' hc => ?_
  refine (h.describe hr).bind fun live? live?' hlive => ?_
  cases hlive with
  | none => exact Run.twin_pure rfl
  | some hl =>
    exact (Run.twin_read (Listener.drifts_twin hl hc)).bind fun _ _ hd =>
      Run.twin_pure (congrArg some (Drift.fields_of_twin hd))

end Twin

end Reconciler

/-! ## What is told of a pass -/

/-- An event without the time that it bears. -/
def Event.undated (e : Event) : Event := { e with timestamp := .null }

/-- The event that an effect publishes, without the time that it bears. -/
def Effect.announced (effect : Effect) : Option Event := effect.published.map Event.undated

theorem hidesCalls_published : HidesCalls Effect.published where
  create := fun _ _ => rfl
  modify := fun _ _ => rfl
  rules := fun _ _ _ _ => rfl
  send := fun _ _ => rfl

theorem hidesCalls_announced : HidesCalls Effect.announced where
  create := fun _ _ => rfl
  modify := fun _ _ => rfl
  rules := fun _ _ _ _ => rfl
  send := fun _ _ => rfl

/-- What is told of a pass over a request: why nothing is built of it, if nothing is, the fields on
    which the live listener has drifted, how the pass ends, and the events that it publishes. -/
@[ext] structure Sight where
  built : Except Failure Unit
  drifted : Except Stop (Option (List String))
  ended : Except Stop (EventType × Json)
  events : List Event

namespace Reconciler

/-- What is told of a pass over a request. -/
def sight (r : Reconciler σ) (request : Request) (s : σ) : Sight where
  built := request.build.map fun _ => ()
  drifted := (r.driftedFields request s).result
  ended := (r.converge request s).result.map fun result => (result.type, result.listener.arn)
  events := (r.converge request).seen Effect.announced s

/-- Whatever is told of a pass is told of its twin. -/
theorem sight_of_twin {r r' : Reconciler σ} {request request' : Request}
    (h : r.Twin Effect.announced S r') (hr : request.Twin request') {s s' : σ} (hs : S s s') :
    r.sight request s = r'.sight request' s' := by
  obtain ⟨hresult, -, hseen⟩ := h.converge hr s s' hs
  have hdrifted := (h.driftedFields hr s s' hs).result.eq
  exact Sight.ext (hr.build.map_eq fun _ _ _ => rfl) hdrifted
    (hresult.map_eq fun _ _ hr => by rw [hr.type, hr.listener.arn]) hseen

end Reconciler

end AlbListener

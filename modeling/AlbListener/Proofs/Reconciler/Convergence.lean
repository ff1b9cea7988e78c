import AlbListener.Proofs.Cloud.Client
import AlbListener.Proofs.Reconciler.Calls

/-!
# Runs of passes

A run repeats passes with the same request. Before each pass failures may be prepared, and
each pass has rules of its own, so that whatever can fail may fail in any pass. What was
created stays in the store, and every later pass finds it there as it should be.

Results:
* `converge_of_absent`, `converge_of_created`: one pass before and after the listener is there.
* `grown_after`: what a run leaves in the store.
* `run_creates_once`: a run creates the listener at most once, and then leaves it alone.
-/

namespace AlbListener

open Client (described OnPort Keeps DescribeStops)

/-- Rules that leave the store as it is. -/
def RuleReconciler.Keeps {σ : Type} (Valid : σ → Prop) (stored : σ → List Json)
    (rules : RuleReconciler σ) : Prop :=
  ∀ arn ingress annotations groups s, Valid s →
    Valid (rules arn ingress annotations groups s).state ∧
      stored (rules arn ingress annotations groups s).state = stored s

/-- The parameters of the call that creates a listener. -/
def ListenerConfig.createParams (config : ListenerConfig) (loadBalancerArn : Json) :
    List (String × Json) := ("LoadBalancerArn", loadBalancerArn) :: config.toApi

namespace Reconciler

open Run (Records callsAfter)

variable {σ : Type}

/-! ## Calls of a pass over what there is -/

theorem mem_callsAfter {α : Type} {result : Except Stop α} {more : α → List PassCall}
    {call : PassCall} (h : call ∈ callsAfter result more) :
    ∃ value, result = .ok value ∧ call ∈ more value := by
  cases result with
  | error => cases h
  | ok value => exact ⟨value, rfl, h⟩

/-- The calls that a pass over the listener that is live makes, as they are noted. -/
def convergeCalls (r : Reconciler σ) (request : Request) (s : σ) : List PassCall :=
  (r.recorded.converge request (s, [])).state.2

theorem convergeCalls_eq (r : Reconciler σ) (request : Request) (s : σ) :
    r.convergeCalls request s =
      .describe request.loadBalancerArn request.port.port ::
        callsAfter ((r.cloud.describe request.loadBalancerArn request.port.port).ending s).1
          fun live => r.passCalls { request with instance? := live }
            ((r.cloud.describe request.loadBalancerArn request.port.port).ending s).2 := by
  have hrecords : Records (r.recorded.converge request) (r.converge request) _ :=
    (Run.records_noting (.describe request.loadBalancerArn request.port.port)
      (r.cloud.describe request.loadBalancerArn request.port.port)).bind
      (fun live => r.passCalls { request with instance? := live })
      fun live => records_reconcile r { request with instance? := live }
  rw [convergeCalls, hrecords]
  rfl

/-! ## One pass -/

variable {client : Client σ} {Valid : σ → Prop} {stored : σ → List Json}
variable {r : Reconciler σ} {request : Request} {config : ListenerConfig} {s s' : σ}

/-- After the listener step a pass leaves the store as it is. -/
theorem reconcile_keeps_of_applyConfig (hrules : r.rules.Keeps Valid stored)
    (hb : request.build = .ok config) {result : Except Stop Result} (hs : Valid s')
    (ha : (r.applyConfig request config).ending s = (result, s')) :
    Valid ((r.reconcile request).ending s).2 ∧
      stored ((r.reconcile request).ending s).2 = stored s' := by
  rw [ending_reconcile]
  cases result with
  | error reason =>
    rw [ending_steps_of_error r hb ha]
    exact ⟨hs, rfl⟩
  | ok result =>
    rw [ending_steps_of_ok r hb ha]
    exact hrules _ _ _ _ _ hs

/-- A pass that has to create the listener leaves the store as it is or with the new listener
    at its end. -/
theorem reconcile_create_keeps (hc : client.Keeps Valid stored) (hr : r.cloud = client.cloud)
    (hrules : r.rules.Keeps Valid stored) (hb : request.build = .ok config)
    (hi : request.instance? = none) (hs : Valid s) :
    Valid ((r.reconcile request).ending s).2 ∧
      (stored ((r.reconcile request).ending s).2 = stored s ∨
        ∃ arn, stored ((r.reconcile request).ending s).2 =
          stored s ++ [described arn (config.createParams request.loadBalancerArn)]) := by
  have ha := ending_applyConfig_create r config s hi
  rw [hr, Client.ending_create] at ha
  rcases hcall : (client.create (config.createParams request.loadBalancerArn)).ending s
    with ⟨answer, s₁⟩
  obtain ⟨hvalid, hstored⟩ := hc.create hs hcall
  have hcall' : (client.create (("LoadBalancerArn", request.loadBalancerArn)
    :: config.toApi)).ending s = (answer, s₁) := hcall
  rw [hcall'] at ha
  obtain ⟨hvalid', hstored'⟩ := reconcile_keeps_of_applyConfig hrules hb hvalid ha
  rw [hstored']
  exact ⟨hvalid', hstored.imp And.left fun ⟨arn, h, _⟩ => ⟨arn, h⟩⟩

theorem ending_converge_of_ok {live : Option Listener}
    (h : (r.cloud.describe request.loadBalancerArn request.port.port).ending s = (.ok live, s')) :
    (r.converge request).ending s = (r.reconcile { request with instance? := live }).ending s' :=
  Run.ending_bind_of_ok _ h

theorem ending_converge_of_error {reason : Stop}
    (h : (r.cloud.describe request.loadBalancerArn request.port.port).ending s =
      (.error reason, s')) :
    (r.converge request).ending s = (.error reason, s') := Run.ending_bind_of_error _ h

/-- A pass that finds no listener on the port creates it or leaves the store as it is. -/
theorem converge_of_absent (hc : client.Keeps Valid stored) (hr : r.cloud = client.cloud)
    (hrules : r.rules.Keeps Valid stored) (hb : request.build = .ok config) (hs : Valid s)
    (habsent : ∀ item ∈ stored s, ¬OnPort request.loadBalancerArn request.port.port item) :
    Valid ((r.converge request).ending s).2 ∧
      (stored ((r.converge request).ending s).2 = stored s ∨
        ∃ arn, stored ((r.converge request).ending s).2 =
          stored s ++ [described arn (config.createParams request.loadBalancerArn)]) ∧
      ∀ arn config', .modify arn config' ∉ r.convergeCalls request s := by
  have hcalls := convergeCalls_eq r request s
  obtain ⟨s₁, hvalid, hstored, hend⟩ := Client.ending_describe hc request.port.port hs
  rw [← hr] at hend
  rcases hend with ⟨reason, -, hend⟩ | ⟨-, hend⟩ | ⟨item, hm, hitem, -⟩
  · rw [hend] at hcalls
    rw [ending_converge_of_error hend, hcalls]
    refine ⟨hvalid, .inl hstored, fun arn config' hmem => ?_⟩
    simp [callsAfter] at hmem
  · rw [hend] at hcalls
    rw [ending_converge_of_ok hend, ← hstored, hcalls]
    have hb' := (request.build_with_instance none).trans hb
    obtain ⟨hvalid', hstored'⟩ := reconcile_create_keeps hc hr hrules hb' rfl hvalid
    refine ⟨hvalid', hstored', fun arn config' hmem => ?_⟩
    rw [callsAfter, passCalls_create r s₁ hb' rfl] at hmem
    simp only [List.mem_cons, reduceCtorEq, false_or] at hmem
    obtain ⟨listener, -, hrule⟩ := mem_callsAfter hmem
    simp [rulesCall] at hrule
  · exact absurd hitem (habsent item hm)

/-! ## Once the listener is there -/

theorem describes_createParams {arn : String} {loadBalancerArn : Json} {port : ℤ}
    (ha : ∀ a ∈ config.defaultActions, a.Managed) (hp : config.port.IsInteger port) :
    Listener.ofDocument (described arn (config.createParams loadBalancerArn)) =
      .ok (Listener.created (.str arn) loadBalancerArn config port) :=
  Listener.ofDocument_eq_ok_iff.mpr
    (Listener.describes_created ha (Json.toInteger_of_isInteger hp))

theorem onPort_createParams {arn : String} {loadBalancerArn : Json}
    (hl : loadBalancerArn.equals loadBalancerArn = true) (hp : config.port.IsWhole) :
    OnPort loadBalancerArn config.port (described arn (config.createParams loadBalancerArn)) := by
  let members := [("ListenerArn", Json.str arn), ("LoadBalancerArn", loadBalancerArn)]
  have hget (key : String) : Entries.get?
      (Entries.overlay [("ListenerArn", .str arn)] (config.createParams loadBalancerArn)) key =
        (Entries.get? config.toApi key).or (Entries.get? members key) :=
    Listener.get?_overlay_toApi members config key
  constructor
  · show ((Entries.get? _ "LoadBalancerArn").getD Json.null).equals loadBalancerArn = true
    rw [hget, config.get?_toApi_of_not_mem _ (by decide)]
    exact hl
  · show ((Entries.get? _ "Port").getD Json.null).equals config.port = true
    rw [hget, config.get?_toApi_port]
    exact Json.equals_self_of_isWhole hp

/-- The listener that was created is found on its port as it was created. -/
theorem describe_of_created (hc : client.Keeps Valid stored) (hl : request.Addressed)
    (hg : request.targetGroups.Distinct) (hb : request.build = .ok config) {port : ℤ}
    (hport : config.port.IsInteger port) (hs : Valid s) {kept : List Json} {arn : String}
    (hstored : stored s = kept ++ [described arn (config.createParams request.loadBalancerArn)])
    (habsent : ∀ item ∈ kept, ¬OnPort request.loadBalancerArn request.port.port item) :
    ∃ s₁, Valid s₁ ∧ stored s₁ = stored s ∧
      ((∃ reason, client.DescribeStops request.loadBalancerArn s reason ∧
          (client.cloud.describe request.loadBalancerArn request.port.port).ending s =
            (.error reason, s₁)) ∨
        (client.cloud.describe request.loadBalancerArn request.port.port).ending s =
          (.ok (some (Listener.created (.str arn) request.loadBalancerArn config port)), s₁)) := by
  have hdesires := Request.desires_of_build hb
  rw [← hdesires.port] at habsent ⊢
  obtain ⟨s₁, hvalid, hstored₁, hend⟩ := Client.ending_describe hc config.port hs
  refine ⟨s₁, hvalid, hstored₁, hend.imp_right fun hend => ?_⟩
  rcases hend with ⟨hnone, -⟩ | ⟨item, hm, hitem, hend⟩
  · have hm : described arn (config.createParams request.loadBalancerArn) ∈ stored s := by
      rw [hstored]
      exact List.mem_append_right _ List.mem_cons_self
    exact absurd (onPort_createParams hl.equals_loadBalancerArn ⟨port, hport⟩) (hnone _ hm)
  · -- nothing else is on the port
    obtain rfl : item = described arn (config.createParams request.loadBalancerArn) := by
      rw [hstored] at hm
      rcases List.mem_append.mp hm with hm | hm
      · exact absurd hitem (habsent item hm)
      · exact List.mem_singleton.mp hm
    rw [describes_createParams (hdesires.managed hg) hport] at hend
    exact hend

/-- A pass that starts when the listener is there calls neither create nor modify. It stops with
    the provider when the listener is described, or ends as the rules of the listener do, which
    is returned as it is. -/
theorem converge_of_created (hc : client.Keeps Valid stored) (hr : r.cloud = client.cloud)
    (hrules : r.rules.Keeps Valid stored) (hl : request.Addressed)
    (hg : request.targetGroups.Distinct) (hb : request.build = .ok config) (hs : Valid s)
    {kept : List Json} {arn : String}
    (hstored : stored s = kept ++ [described arn (config.createParams request.loadBalancerArn)])
    (habsent : ∀ item ∈ kept, ¬OnPort request.loadBalancerArn request.port.port item) :
    (Valid ((r.converge request).ending s).2 ∧
      stored ((r.converge request).ending s).2 = stored s) ∧
    (∀ call ∈ r.convergeCalls request s,
      call = .describe request.loadBalancerArn request.port.port ∨
        call = rulesCall request (.str arn)) ∧
    ((∃ reason, client.DescribeStops request.loadBalancerArn s reason ∧
        ((r.converge request).ending s).1 = .error reason) ∨
      ∃ live s₁, live.arn = .str arn ∧
        (client.cloud.describe request.loadBalancerArn request.port.port).ending s =
          (.ok (some live), s₁) ∧
        ((r.converge request).ending s).1 =
          ((((r.rules (.str arn) request.ingress request.annotations
            request.targetGroups).ending s₁).1.mapError
              (Stop.wrapped (asRuleFailure (.str arn)))).map fun _ => ⟨live, .unchanged⟩)) := by
  have hdesires := Request.desires_of_build hb
  obtain ⟨port, hport⟩ := hl.port
  rw [← hdesires.port] at hport
  have hcalls := convergeCalls_eq r request s
  obtain ⟨s₁, hvalid, hstored₁, hend⟩ :=
    describe_of_created hc hl hg hb hport hs hstored habsent
  rw [hr] at hcalls
  rcases hend with ⟨reason, hstops, hend⟩ | hend
  · rw [hend] at hcalls
    rw [ending_converge_of_error (by rw [hr, hend]), hcalls]
    refine ⟨⟨hvalid, hstored₁⟩, fun call hm => .inl ?_, .inl ⟨reason, hstops, rfl⟩⟩
    exact List.mem_singleton.mp hm
  · have hneeds := needsUpdate_eq_ok_of_drifts (Listener.drifts_created (.str arn)
      request.loadBalancerArn (hdesires.managed hg) hdesires.policy hdesires.plain hport)
    rw [hend] at hcalls
    have hb' := (request.build_with_instance
      (some (.created (.str arn) request.loadBalancerArn config port))).trans hb
    have hpass := hcalls.trans (congrArg (List.cons _) (passCalls_keep r s₁ hb' rfl hneeds))
    rw [ending_converge_of_ok (by rw [hr, hend]), ending_reconcile_keep r s₁ hb' rfl hneeds, hpass]
    obtain ⟨hvalid', hstored'⟩ := hrules _ _ _ _ _ hvalid
    exact ⟨⟨hvalid', hstored'.trans hstored₁⟩,
      fun call hm => (List.mem_cons.mp hm).imp_right List.mem_singleton.mp,
      .inr ⟨_, s₁, rfl, hend, rfl⟩⟩

end Reconciler

/-! ## Runs -/

/-- A turn of a run: what happens before the pass, and the reconciler of the pass but for its
    cloud. -/
structure Turn (σ : Type) where
  before : σ → σ
  rules : RuleReconciler σ
  announces : Bool
  now : String

namespace Turn

variable {σ : Type}

/-- The reconciler of a turn. -/
def reconciler (turn : Turn σ) (client : Client σ) : Reconciler σ :=
  ⟨client.cloud, turn.rules, turn.announces, turn.now⟩

/-- A turn in which only the pass acts on the store. -/
structure Keeps (Valid : σ → Prop) (stored : σ → List Json) (turn : Turn σ) : Prop where
  before : ∀ s, Valid s → Valid (turn.before s) ∧ stored (turn.before s) = stored s
  rules : turn.rules.Keeps Valid stored

/-- The outcome of the pass of a turn. -/
def pass (turn : Turn σ) (client : Client σ) (request : Request) (s : σ) : Outcome σ Result :=
  (turn.reconciler client).converge request (turn.before s)

/-- The calls of the pass of a turn. -/
def calls (turn : Turn σ) (client : Client σ) (request : Request) (s : σ) : List PassCall :=
  (turn.reconciler client).convergeCalls request (turn.before s)

/-- The state after some turns. -/
def after (client : Client σ) (request : Request) : List (Turn σ) → σ → σ
  | [], s => s
  | turn :: rest, s => after client request rest (turn.pass client request s).state

end Turn

namespace Reconciler

variable {σ : Type} {client : Client σ} {Valid : σ → Prop} {stored : σ → List Json}
variable {request : Request} {config : ListenerConfig} {s s' : σ}

/-- The store is as it was at first, or holds one more description: that of the listener. -/
def Grown (request : Request) (config : ListenerConfig) (kept now : List Json) : Prop :=
  now = kept ∨
    ∃ arn, now = kept ++ [described arn (config.createParams request.loadBalancerArn)]

/-- A turn keeps the store as it is or creates the listener, if it is not there. -/
theorem grown_turn (hc : client.Keeps Valid stored) (hl : request.Addressed)
    (hg : request.targetGroups.Distinct) (hb : request.build = .ok config) {turn : Turn σ}
    (hturn : turn.Keeps Valid stored) (hs : Valid s') {kept : List Json}
    (habsent : ∀ item ∈ kept, ¬OnPort request.loadBalancerArn request.port.port item)
    (hgrown : Grown request config kept (stored s')) :
    Valid (turn.pass client request s').state ∧
      Grown request config kept (stored (turn.pass client request s').state) := by
  obtain ⟨hvalid, hstored⟩ := hturn.before _ hs
  rcases hgrown with hkept | ⟨arn, hkept⟩
  · rw [hkept] at hstored
    obtain ⟨hvalid', hstored', -⟩ := converge_of_absent hc (r := turn.reconciler client) rfl
      hturn.rules hb hvalid (by rwa [hstored])
    rw [hstored] at hstored'
    exact ⟨hvalid', hstored'⟩
  · rw [hkept] at hstored
    obtain ⟨⟨hvalid', hstored'⟩, -⟩ := converge_of_created hc (r := turn.reconciler client) rfl
      hturn.rules hl hg hb hvalid hstored habsent
    exact ⟨hvalid', .inr ⟨arn, hstored'.trans hstored⟩⟩

/-- Whatever fails in a run, the store holds at most one more description after it. -/
theorem grown_after (hc : client.Keeps Valid stored) (hl : request.Addressed)
    (hg : request.targetGroups.Distinct) (hb : request.build = .ok config) {turns : List (Turn σ)}
    (hturns : ∀ turn ∈ turns, turn.Keeps Valid stored) (hs : Valid s) {kept : List Json}
    (habsent : ∀ item ∈ kept, ¬OnPort request.loadBalancerArn request.port.port item)
    (hgrown : Grown request config kept (stored s)) :
    Valid (Turn.after client request turns s) ∧
      Grown request config kept (stored (Turn.after client request turns s)) := by
  induction turns generalizing s with
  | nil => exact ⟨hs, hgrown⟩
  | cons turn rest ih =>
    obtain ⟨hturn, hrest⟩ := List.forall_mem_cons.mp hturns
    obtain ⟨hvalid, hgrown'⟩ := grown_turn hc hl hg hb hturn hs habsent hgrown
    exact ih hrest hvalid hgrown'

/-- A run over a port that is free at first creates at most one listener, whatever fails in
    its passes, and modifies none. A pass that starts when the listener is there leaves the
    store as it is; unless it stops with the provider when the listener is described, it ends
    as the rules do, and what it returns is that listener, unchanged. -/
theorem run_creates_once (hc : client.Keeps Valid stored) (hl : request.Addressed)
    (hg : request.targetGroups.Distinct) (hb : request.build = .ok config) (hs : Valid s)
    (habsent : ∀ item ∈ stored s, ¬OnPort request.loadBalancerArn request.port.port item)
    {turns : List (Turn σ)} (hturns : ∀ turn ∈ turns, turn.Keeps Valid stored) :
    Grown request config (stored s) (stored (Turn.after client request turns s)) ∧
    ∀ earlier turn later, turns = earlier ++ turn :: later →
      let start := Turn.after client request earlier s
      (∀ arn config', .modify arn config' ∉ turn.calls client request start) ∧
      ∀ arn, stored start = stored s ++ [described arn
          (config.createParams request.loadBalancerArn)] →
        stored (turn.pass client request start).state = stored start ∧
        ((∃ reason, client.DescribeStops request.loadBalancerArn (turn.before start) reason ∧
            (turn.pass client request start).result = .error reason) ∨
          ∃ live s', live.arn = .str arn ∧
            (client.cloud.describe request.loadBalancerArn request.port.port).ending
              (turn.before start) = (.ok (some live), s') ∧
            (turn.pass client request start).result =
              (((turn.rules (.str arn) request.ingress request.annotations
                request.targetGroups s').result.mapError
                  (Stop.wrapped (asRuleFailure (.str arn)))).map fun _ => ⟨live, .unchanged⟩)) := by
  refine ⟨(grown_after hc hl hg hb hturns hs habsent (.inl rfl)).2, ?_⟩
  rintro earlier turn later rfl start
  obtain ⟨hearlier, hlater⟩ := List.forall_mem_append.mp hturns
  have hturn := (List.forall_mem_cons.mp hlater).1
  obtain ⟨hvalid, hgrown⟩ := grown_after hc hl hg hb hearlier hs habsent (.inl rfl)
  obtain ⟨hvalid', hstored⟩ := hturn.before _ hvalid
  have hcreated (arn : String) (hkept : stored start = stored s ++ [described arn
      (config.createParams request.loadBalancerArn)]) :=
    converge_of_created hc (r := turn.reconciler client) rfl hturn.rules hl hg hb hvalid'
      (hstored.trans hkept) habsent
  refine ⟨fun arn config' hm => ?_, fun arn hkept => ?_⟩
  · rcases hgrown with hkept | ⟨arn', hkept⟩
    · have habsent' := converge_of_absent hc (r := turn.reconciler client) rfl hturn.rules hb
        hvalid' (by rwa [hstored, hkept])
      exact habsent'.2.2 arn config' hm
    · rcases (hcreated arn' hkept).2.1 _ hm with h | h <;> cases h
  · obtain ⟨⟨-, hsame⟩, -, hend⟩ := hcreated arn hkept
    exact ⟨hsame.trans hstored, hend⟩

/-! ## Over a provider in memory -/

/-- A turn of which the rules are managed elsewhere. -/
def plainTurn (before : Fleet → Fleet) : Turn Fleet := ⟨before, .unmanaged, true, ""⟩

theorem keeps_plainTurn {before : Fleet → Fleet}
    (h : ∀ fleet, fleet.Unscripted →
      (before fleet).Unscripted ∧ (before fleet).listeners = fleet.listeners) :
    (plainTurn before).Keeps Fleet.Unscripted Fleet.listeners :=
  ⟨h, fun _ _ _ _ _ hs => ⟨hs, rfl⟩⟩

/-- The turns of a run whose first create call is cancelled. -/
def cancelledTurns : List (Turn Fleet) :=
  [plainTurn fun fleet => fleet.inject .create .cancelled, plainTurn id]

theorem listeners_after_cancelledTurns :
    (Turn.after Fleet.client .bare cancelledTurns (Fleet.ofListeners [] 0)).listeners =
      [described "lb/listener/1" (Request.bareConfig.createParams (.str "lb"))] := rfl

/-- A listener is created in the pass after one that was cancelled, and the pass after that
    leaves it alone. -/
theorem run_creates_once_bare :
    let start := Turn.after Fleet.client .bare cancelledTurns (Fleet.ofListeners [] 0)
    (∀ arn config, .modify arn config ∉ (plainTurn id).calls Fleet.client .bare start) ∧
    ((plainTurn id).pass Fleet.client .bare start).state.listeners =
      [described "lb/listener/1" (Request.bareConfig.createParams (.str "lb"))] := by
  have hturns : ∀ turn ∈ cancelledTurns ++ [plainTurn id],
      turn.Keeps Fleet.Unscripted Fleet.listeners := by
    simp only [cancelledTurns, List.cons_append, List.nil_append, List.forall_mem_cons]
    exact ⟨keeps_plainTurn fun _ hs => ⟨hs, rfl⟩, keeps_plainTurn fun _ hs => ⟨hs, rfl⟩,
      keeps_plainTurn fun _ hs => ⟨hs, rfl⟩, fun _ hm => by cases hm⟩
  have hbare := Request.typed_bare
  obtain ⟨-, hrun⟩ := run_creates_once Fleet.keeps_client hbare.toAddressed hbare.distinct
    Request.build_bare (s := Fleet.ofListeners [] 0) ⟨rfl, rfl⟩ (fun item hm => by cases hm) hturns
  obtain ⟨hmodify, hcreated⟩ := hrun cancelledTurns (plainTurn id) [] rfl
  obtain ⟨hsame, -⟩ := hcreated "lb/listener/1" listeners_after_cancelledTurns
  exact ⟨hmodify, hsame.trans listeners_after_cancelledTurns⟩

end Reconciler

end AlbListener

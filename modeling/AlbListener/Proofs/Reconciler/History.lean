import AlbListener.Proofs.Cloud.Fleet
import AlbListener.Proofs.Reconciler.Convergence
import AlbListener.Proofs.Yaml.Form

/-!
# Histories of a fleet

A history is a list of visits to a fleet that is empty at first. Each visit is a pass over the
listener that is live, for a request of its own and with failures of its own. Whatever fails,
the fleet stays in order: every listener has one card, no two cards name the same arn or the
same port of a load balancer, and a visit touches no other listener than the one on its port.

Results:
* `grows_applyConfig`: the listener step keeps a fleet in order.
* `grows_pass`: so does a visit, and it changes nothing if it does not get to the rules.
* `registers_after`: so does a history.
* `history_grows`: every visit of every history.
-/

namespace AlbListener

open Client (OnPort)
open Fleet (Grows Registers)

/-- A visit to a fleet: a request that was loaded, the failures that are pending, and the
    reconciler of the pass but for its cloud. The rules act on something else than the fleet. -/
structure Visit where
  request : Request
  loaded : request.Loaded
  pending : List (Call × Injected)
  rules : RuleReconciler Fleet
  rules_still : ∀ arn ingress annotations groups, (rules arn ingress annotations groups).Still
  announces : Bool
  now : String

namespace Visit

/-- The turn that a visit is. -/
def turn (visit : Visit) : Turn Fleet :=
  { before := fun fleet => { fleet with pending := visit.pending }
    rules := visit.rules
    announces := visit.announces
    now := visit.now }

/-- The outcome of the pass of a visit. -/
def pass (visit : Visit) (fleet : Fleet) : Outcome Fleet Result :=
  visit.turn.pass Fleet.client visit.request fleet

/-- The calls of the pass of a visit. -/
def calls (visit : Visit) (fleet : Fleet) : List PassCall :=
  visit.turn.calls Fleet.client visit.request fleet

/-- The fleet after some visits. -/
def after : List Visit → Fleet → Fleet
  | [], fleet => fleet
  | visit :: rest, fleet => after rest (visit.pass fleet).state

end Visit

namespace Reconciler

variable {r : Reconciler Fleet} {request : Request} {config : ListenerConfig}
variable {fleet : Fleet} {cards : List Card}

/-- What a request says of the live listener is what the fleet holds on its port. -/
def Observes (request : Request) (fleet : Fleet) : Prop :=
  match request.instance? with
  | none => ∀ item ∈ fleet.listeners, ¬OnPort request.loadBalancerArn request.port.port item
  | some live => ∃ item ∈ fleet.listeners,
    OnPort request.loadBalancerArn request.port.port item ∧ Listener.ofDocument item = .ok live

/-- The listener step fails before it has an effect, or keeps the fleet in order. -/
theorem grows_applyConfig (hr : r.cloud = Fleet.cloud) (h : fleet.Registers cards)
    (ht : request.Typed) (hb : request.build = .ok config) (ho : Observes request fleet) :
    (∃ reason pending, (r.applyConfig request config).ending fleet =
      (.error reason, { fleet with pending })) ∨
    ∃ result fleet' added, (r.applyConfig request config).ending fleet = (.ok result, fleet') ∧
      Grows request.loadBalancerArn request.port.port cards added fleet.listeners fleet' := by
  have hdesires := Request.desires_of_build hb
  have hmanaged := hdesires.managed ht.distinct
  obtain ⟨lb, hlb⟩ := ht.loadBalancerArn
  obtain ⟨n, hn⟩ := ht.port
  rw [← hdesires.port] at hn
  unfold Observes at ho
  rw [hlb, ← hdesires.port] at ho ⊢
  cases hi : request.instance? with
  | none =>
    rw [hi] at ho
    have happly := ending_applyConfig_create r config fleet hi
    rw [hlb, hr] at happly
    rcases Fleet.grows_create h hmanaged hn ho with
      ⟨reason, pending, hend⟩ | ⟨live, added, fleet', hend, hgrows⟩
    · rw [hend] at happly
      exact .inl ⟨_, pending, happly⟩
    · rw [hend] at happly
      exact .inr ⟨_, fleet', added, happly, hgrows⟩
  | some live =>
    rw [hi] at ho
    obtain ⟨item, hm, hport, hlive⟩ := ho
    rcases hd : live.needsUpdate config with fault | _ | _
    · exact .inl ⟨_, fleet.pending, ending_applyConfig_fault r fleet hi hd⟩
    · exact .inr ⟨_, _, [], ending_applyConfig_keep r fleet hi hd,
        h.grows _ _ fleet.pending⟩
    · have happly := ending_applyConfig_modify r fleet hi hd
      rw [hr] at happly
      rcases Fleet.grows_modify h hmanaged hn hm hport hlive with
        ⟨reason, pending, hend⟩ | ⟨answered, added, fleet', hend, hgrows⟩
      · rw [hend] at happly
        exact .inl ⟨_, pending, happly⟩
      · rw [hend] at happly
        exact .inr ⟨_, fleet', added, happly, hgrows⟩

/-- A pass keeps the fleet in order, and changes nothing if it does not get to the rules. -/
theorem grows_reconcile (hr : r.cloud = Fleet.cloud) (h : fleet.Registers cards)
    (hrules : ∀ arn ingress annotations groups, (r.rules arn ingress annotations groups).Still)
    (ht : request.Typed) (ho : Observes request fleet) :
    (∃ added, Grows request.loadBalancerArn request.port.port cards added fleet.listeners
      ((r.reconcile request).ending fleet).2) ∧
    ((∀ arn, rulesCall request arn ∉ r.passCalls request fleet) →
      ∃ pending, ((r.reconcile request).ending fleet).2 = { fleet with pending }) := by
  rcases hb : request.build with failure | config
  · rw [ending_reconcile_of_build_error r fleet hb]
    exact ⟨⟨[], h.grows _ _ fleet.pending⟩, fun _ => ⟨fleet.pending, rfl⟩⟩
  · rw [ending_reconcile, passCalls, hb]
    rcases grows_applyConfig hr h ht hb ho with
      ⟨reason, pending, happly⟩ | ⟨result, fleet', added, happly, hgrows⟩
    · rw [ending_steps_of_error r hb happly]
      exact ⟨⟨[], h.grows _ _ pending⟩, fun _ => ⟨pending, rfl⟩⟩
    · rw [ending_steps_of_ok r hb happly]
      -- the rules are called, and leave the fleet as it is
      have hstill : ((r.rules result.listener.arn request.ingress request.annotations
        request.targetGroups).ending fleet').2 = fleet' := hrules _ _ _ _ fleet'
      have hresult := congrArg Prod.fst happly
      dsimp only [Run.ending] at hresult
      refine ⟨⟨added, ?_⟩, fun hnone => absurd ?_ (hnone result.listener.arn)⟩
      · dsimp only
        rwa [hstill]
      · dsimp only
        rw [hresult]
        exact List.mem_append_right _ List.mem_cons_self

/-- What is described is what the fleet holds on the port, and describing changes nothing. -/
theorem describe_observes (h : fleet.Registers cards) (request : Request) :
    ∃ pending, (∃ reason, (Fleet.cloud.describe request.loadBalancerArn request.port.port).ending
        fleet = (.error reason, { fleet with pending })) ∨
      ∃ live?, (Fleet.cloud.describe request.loadBalancerArn request.port.port).ending fleet =
          (.ok live?, { fleet with pending }) ∧
        Observes { request with instance? := live? } fleet := by
  obtain ⟨pending, hstate⟩ :=
    Fleet.state_describe fleet request.loadBalancerArn request.port.port
  refine ⟨pending, ?_⟩
  obtain ⟨fleet', -, -, hend⟩ :=
    Client.ending_describe Fleet.keeps_client request.port.port h.unscripted
  rw [show Fleet.client.cloud = Fleet.cloud from rfl] at hend
  rcases hend with ⟨reason, -, hend⟩ | ⟨hfree, hend⟩ | ⟨item, hm, hport, hend⟩
  · rw [hend] at hstate
    obtain rfl : fleet' = _ := hstate
    exact .inl ⟨reason, hend⟩
  · rw [hend] at hstate
    obtain rfl : fleet' = _ := hstate
    exact .inr ⟨none, hend, hfree⟩
  · obtain ⟨card, -, hitem⟩ := Card.exists_card h.described hm
    obtain ⟨live, hlive⟩ := hitem.reads
    rw [hlive] at hend
    rw [hend] at hstate
    obtain rfl : fleet' = _ := hstate
    exact .inr ⟨some live, hend, item, hm, hport, hlive⟩

end Reconciler

namespace Visit

open Reconciler (Observes rulesCall)

variable {fleet : Fleet} {cards : List Card}

/-- A visit keeps the fleet in order, and changes nothing if it does not get to the rules. -/
theorem grows_pass (visit : Visit) (h : fleet.Registers cards) :
    (∃ added, Grows visit.request.loadBalancerArn visit.request.port.port cards added
      fleet.listeners (visit.pass fleet).state) ∧
    ((∀ arn ingress annotations groups,
        .rules arn ingress annotations groups ∉ visit.calls fleet) →
      ∃ pending, (visit.pass fleet).state = { fleet with pending }) := by
  let r := visit.turn.reconciler Fleet.client
  let start : Fleet := { fleet with pending := visit.pending }
  have hcalls : visit.calls fleet = _ := r.convergeCalls_eq visit.request start
  show (∃ added,
    Grows _ _ cards added fleet.listeners ((r.converge visit.request).ending start).2) ∧
    (_ → ∃ pending, ((r.converge visit.request).ending start).2 = { fleet with pending })
  obtain ⟨pending, ⟨reason, hend⟩ | ⟨live?, hend, hobserves⟩⟩ :=
    Reconciler.describe_observes (h.pending visit.pending) visit.request
  · rw [Reconciler.ending_converge_of_error hend]
    exact ⟨⟨[], h.grows _ _ pending⟩, fun _ => ⟨pending, rfl⟩⟩
  · have hdescribe : (r.cloud.describe visit.request.loadBalancerArn
      visit.request.port.port).ending start = (.ok live?, { fleet with pending }) := hend
    rw [hdescribe] at hcalls
    obtain ⟨hgrows, hkeeps⟩ := Reconciler.grows_reconcile (r := r) rfl (h.pending pending)
      visit.rules_still (visit.loaded.typed.with_instance live?) hobserves
    rw [Reconciler.ending_converge_of_ok hdescribe]
    refine ⟨hgrows, fun hnone => hkeeps fun arn hm => ?_⟩
    have hmem : rulesCall { visit.request with instance? := live? } arn ∈ visit.calls fleet := by
      rw [hcalls]
      exact List.mem_cons_of_mem _ hm
    exact hnone _ _ _ _ hmem

/-- A history keeps a fleet in order. -/
theorem registers_after (visits : List Visit) (h : fleet.Registers cards) :
    ∃ cards', (after visits fleet).Registers cards' := by
  induction visits generalizing fleet cards with
  | nil => exact ⟨cards, h⟩
  | cons visit rest ih =>
    obtain ⟨⟨added, hgrows⟩, -⟩ := visit.grows_pass h
    exact ih hgrows.registers

/-- Before and after every visit of a history that starts with an empty fleet, every listener has
    a card of its own, with an arn and a place that no other card names. A visit keeps every
    card, adds one at most, and leaves every listener that is not on its port as it is. If it
    does not get to the rules, because it stops when the listener is described, created or
    modified or its desired state worked out, it leaves the fleet as it was. -/
theorem history_grows (pageSize : ℕ) (visits : List Visit) (visit : Visit) :
    let before := after visits (Fleet.ofListeners [] pageSize)
    ∃ cards added, before.Registers cards ∧
      Grows visit.request.loadBalancerArn visit.request.port.port cards added before.listeners
        (visit.pass before).state ∧
      ((∀ arn ingress annotations groups,
          .rules arn ingress annotations groups ∉ visit.calls before) →
        ∃ pending, (visit.pass before).state = { before with pending }) := by
  intro before
  obtain ⟨cards, hcards⟩ := registers_after visits (Fleet.registers_ofListeners pageSize)
  obtain ⟨⟨added, hgrows⟩, hkeeps⟩ := visit.grows_pass hcards
  exact ⟨cards, added, hcards, hgrows, hkeeps⟩

end Visit

end AlbListener

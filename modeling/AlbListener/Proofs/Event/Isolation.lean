import AlbListener.Proofs.Event.Delivery

/-!
# Subscribers do not disturb each other

What a subscriber gets, and what it loses, is settled by what is published and by its own steps. The
others may join, take, let their queues fill up and leave as they like: if their steps are struck
out of a history, the subscriber finds the same at each step that is left.

Results:
* `subscription?_after`: what a step does to one subscription, from that subscription alone.
* `Agree.run`: striking out the steps of others changes nothing for a subscriber.
* `observe_filter`: so what is seen of it, and of nothing else, stays the same.
* `subscribers_isolated`: two histories that are the same for a subscriber end the same for it.
-/

namespace AlbListener

namespace Bus

variable {bus bus' : Bus} {name : String} {step : Step} {steps : List Step} {γ : Type}

/-! ## One subscription -/

/-- Whether a step regards a subscriber: something is published, or the step is its own. -/
def Step.regards (name : String) : Step → Bool
  | .publish _ => true
  | .subscribe other | .unsubscribe other | .next other => other == name

/-- What a step makes of the subscription under a name, if there is one. -/
def becomes (limit : Int) (name : String) (subscription? : Option Subscription) :
    Step → Option Subscription
  | .subscribe other => subscription?.or (if other = name then some ⟨name, true, []⟩ else none)
  | .publish e => subscription?.map fun s => (deliver limit e s).1
  | .unsubscribe other =>
    subscription?.map fun s => if other = name then (close limit s).1 else s
  | .next other =>
    subscription?.map fun s => if other = name then { s with queue := s.queue.drop 1 } else s

theorem subscription?_join_other {other : String} (h : bus.subscription? name = none)
    (hne : other ≠ name) : (bus.after (.subscribe other)).subscription? name = none := by
  rw [subscription?] at h ⊢
  show (bus.subscriptions ++ [_]).find? _ = _
  rw [List.find?_append, h]
  simp [hne]

/-- A subscriber that is not there does not come by a step that is not its joining. -/
theorem subscription?_absent (h : bus.subscription? name = none)
    (hstep : step ≠ .subscribe name) : (bus.after step).subscription? name = none := by
  cases step with
  | subscribe other => exact subscription?_join_other h fun hsame => hstep (by rw [hsame])
  | publish e =>
    rw [subscription?, subscriptions_publish, find?_map_subscriber (deliver_subscriber bus.limit e)]
    rw [subscription?] at h
    rw [h]
    rfl
  | unsubscribe other =>
    have hkept (s : Subscription) :
        (if s.subscriber = other then (close bus.limit s).1 else s).subscriber = s.subscriber := by
      split_ifs
      · exact close_subscriber _ _
      · rfl
    rw [subscription?, subscriptions_unsubscribe, find?_map_subscriber hkept]
    rw [subscription?] at h
    rw [h]
    rfl
  | next other =>
    cases ho : bus.subscription? other with
    | none => rw [after_next_of_none ho, h]
    | some taken =>
      rw [subscription?, subscriptions_next ho,
        find?_map_subscriber (fun s => by split_ifs <;> rfl)]
      rw [subscription?] at h
      rw [h]
      rfl

/-- What a step does to one subscription depends on that subscription alone. -/
theorem subscription?_after (bus : Bus) (name : String) (step : Step) :
    (bus.after step).subscription? name =
      becomes bus.limit name (bus.subscription? name) step := by
  cases hs : bus.subscription? name with
  | none =>
    by_cases hjoin : step = .subscribe name
    · rw [hjoin, subscription?_join hs, becomes, if_pos rfl]
      rfl
    · rw [subscription?_absent hs hjoin]
      cases step with
      | subscribe other => rw [becomes, if_neg fun hsame => hjoin (by rw [hsame])]; rfl
      | publish => rfl
      | unsubscribe => rfl
      | next => rfl
  | some s =>
    cases step with
    | subscribe other => exact subscription?_subscribe hs
    | publish e => exact subscription?_publish e hs
    | unsubscribe other => exact subscription?_unsubscribe other hs
    | next other => exact subscription?_next other hs

/-- The steps of others leave a subscription as it is. -/
theorem becomes_of_others (limit : Int) (subscription? : Option Subscription)
    (h : step.regards name = false) : becomes limit name subscription? step = subscription? := by
  cases step with
  | publish e => cases h
  | subscribe other =>
    rw [becomes, if_neg (beq_eq_false_iff_ne.mp h)]
    exact Option.or_none
  | unsubscribe other =>
    simp only [becomes, if_neg (beq_eq_false_iff_ne.mp h)]
    exact Option.map_id'
  | next other =>
    simp only [becomes, if_neg (beq_eq_false_iff_ne.mp h)]
    exact Option.map_id'

/-! ## Buses that are the same for a subscriber -/

/-- Two buses are the same for a subscriber. -/
structure Agree (name : String) (bus bus' : Bus) : Prop where
  limit : bus.limit = bus'.limit
  subscription : bus.subscription? name = bus'.subscription? name

namespace Agree

theorem refl (name : String) (bus : Bus) : Agree name bus bus := ⟨rfl, rfl⟩

theorem after (h : Agree name bus bus') (step : Step) :
    Agree name (bus.after step) (bus'.after step) where
  limit := by rw [limit_after, limit_after, h.limit]
  subscription := by rw [subscription?_after, subscription?_after, h.limit, h.subscription]

/-- The step lemma of striking out: a step of another subscriber changes nothing. -/
theorem strike (h : Agree name bus bus') (hstep : step.regards name = false) :
    Agree name (bus.after step) bus' where
  limit := (limit_after bus step).trans h.limit
  subscription := by
    rw [subscription?_after, becomes_of_others _ _ hstep]
    exact h.subscription

/-- Striking out the steps of others changes nothing for a subscriber. -/
theorem run (h : Agree name bus bus') :
    Agree name (bus.run steps) (bus'.run (steps.filter (Step.regards name))) := by
  induction steps generalizing bus bus' with
  | nil => exact h
  | cons step rest ih =>
    cases hstep : step.regards name with
    | true =>
      rw [List.filter_cons_of_pos hstep]
      exact ih (h.after step)
    | false =>
      rw [List.filter_cons_of_neg (by rw [hstep]; exact Bool.false_ne_true)]
      exact ih (h.strike hstep)

theorem queue? (h : Agree name bus bus') : bus.queue? name = bus'.queue? name := by
  rw [queue?_eq, queue?_eq, h.subscription]

theorem isFullFor (h : Agree name bus bus') : bus.isFullFor name = bus'.isFullFor name := by
  rw [Bus.isFullFor, Bus.isFullFor, h.subscription, h.limit]

end Agree

/-! ## What is seen of one subscriber -/

/-- What is seen of each step is about one subscriber: it is the same on buses that are the same for
    it, and nothing is seen of the steps of others. -/
structure About (name : String) (see : Bus → Step → List γ) : Prop where
  agree : ∀ {bus bus'}, Agree name bus bus' → ∀ step, see bus step = see bus' step
  others : ∀ bus {step}, step.regards name = false → see bus step = []

/-- What is seen of a subscriber is seen without the steps of others. -/
theorem observe_filter {see : Bus → Step → List γ} (hsee : About name see)
    (h : Agree name bus bus') :
    observe see bus steps = observe see bus' (steps.filter (Step.regards name)) := by
  induction steps generalizing bus bus' with
  | nil => rfl
  | cons step rest ih =>
    cases hstep : step.regards name with
    | true =>
      rw [List.filter_cons_of_pos hstep, observe, observe, hsee.agree h, ih (h.after step)]
    | false =>
      rw [List.filter_cons_of_neg (by rw [hstep]; exact Bool.false_ne_true), observe,
        hsee.others _ hstep, ih (h.strike hstep), List.nil_append]

theorem about_takenBy (name : String) : About name (takenBy name) where
  agree := fun {bus bus'} h step => by
    cases step with
    | next other =>
      rw [takenBy, takenBy]
      split_ifs with hname
      · subst hname
        rw [receive?, receive?, h.queue?]
        cases bus'.queue? other <;> rfl
      · rfl
    | subscribe => rfl
    | publish => rfl
    | unsubscribe => rfl
  others := fun bus {step} h => by
    cases step with
    | next other => rw [takenBy, if_neg (beq_eq_false_iff_ne.mp h)]
    | subscribe => rfl
    | publish => rfl
    | unsubscribe => rfl

theorem about_refusedBy (name : String) : About name (refusedBy name) where
  agree := fun h step => by
    cases step with
    | publish e => rw [refusedBy, refusedBy, h.isFullFor]
    | subscribe => rfl
    | next => rfl
    | unsubscribe => rfl
  others := fun bus {step} h => by
    cases step with
    | publish e => cases h
    | subscribe => rfl
    | next => rfl
    | unsubscribe => rfl

theorem about_evictedFrom (name : String) : About name (evictedFrom name) where
  agree := fun h step => by
    cases step with
    | unsubscribe other => rw [evictedFrom, evictedFrom, h.isFullFor, h.queue?]
    | subscribe => rfl
    | next => rfl
    | publish => rfl
  others := fun bus {step} h => by
    cases step with
    | unsubscribe other =>
      rw [evictedFrom, if_neg fun hboth => beq_eq_false_iff_ne.mp h hboth.1]
    | publish => rfl
    | subscribe => rfl
    | next => rfl

/-! ## Isolation -/

/-- What a step brings to a subscriber: what it takes, the event that its full queue refuses, the
    one that its full queue loses when it leaves, and what waits for it afterwards. -/
structure Share where
  step : Step
  taken : List Received
  refused : List Event
  evicted : List Event
  waiting : List Item

/-- The share of a subscriber in a step that regards it. -/
def shareOf (name : String) (bus : Bus) (step : Step) : List Share :=
  if step.regards name = true then
    [⟨step, bus.takenBy name step, bus.refusedBy name step, bus.evictedFrom name step,
      (bus.after step).waitingFor name⟩]
  else []

theorem about_shareOf (name : String) : About name (shareOf name) where
  agree := fun h step => by
    rw [shareOf, shareOf, (about_takenBy name).agree h, (about_refusedBy name).agree h,
      (about_evictedFrom name).agree h, waitingFor, waitingFor, (h.after step).queue?]
  others := fun bus {step} h => by
    rw [shareOf, if_neg (by rw [h]; exact Bool.false_ne_true)]

/-- On a bus in order, what is reported about a subscriber is what it loses. -/
theorem filter_observe_reported (hin : bus.InOrder) (hp : bus.Possible steps) :
    (observe reported bus steps).filter (concerns name) =
      observe (fun bus step => (bus.refusedBy name step).map (droppedEvent · name) ++
        (bus.evictedFrom name step).map fun _ => droppedOldest name) bus steps := by
  induction steps generalizing bus with
  | nil => rfl
  | cons step rest ih =>
    rw [observe, observe, List.filter_append, filter_reported hin, ih (hin.after hp.1) hp.2]

theorem about_losses (name : String) : About name fun bus step =>
    (bus.refusedBy name step).map (droppedEvent · name) ++
      (bus.evictedFrom name step).map fun _ => droppedOldest name where
  agree := fun h step => by
    rw [(about_refusedBy name).agree h, (about_evictedFrom name).agree h]
  others := fun bus {step} h => by
    rw [(about_refusedBy name).others bus h, (about_evictedFrom name).others bus h]
    rfl

/-- Two histories that have the same steps for a subscriber, whatever the others do in each, end the
    same for it: at each of these steps it takes the same, its queue loses the same and the same
    waits for it. So it gets the same events, is told the end at the same step, and is reported to
    have lost the same. -/
theorem subscribers_isolated (limit : Int) (name : String) {first second : List Step}
    (h : first.filter (Step.regards name) = second.filter (Step.regards name)) :
    observe (shareOf name) (empty limit) first = observe (shareOf name) (empty limit) second ∧
    observe (takenBy name) (empty limit) first = observe (takenBy name) (empty limit) second ∧
    observe (refusedBy name) (empty limit) first = observe (refusedBy name) (empty limit) second ∧
    observe (evictedFrom name) (empty limit) first =
      observe (evictedFrom name) (empty limit) second ∧
    ((empty limit).run first).subscription? name = ((empty limit).run second).subscription? name ∧
    ((empty limit).Possible first → (empty limit).Possible second →
      (observe reported (empty limit) first).filter (concerns name) =
        (observe reported (empty limit) second).filter (concerns name)) := by
  have hsame {γ : Type} {see : Bus → Step → List γ} (hsee : About name see) :
      observe see (empty limit) first = observe see (empty limit) second := by
    rw [observe_filter hsee (.refl name (empty limit)), h,
      ← observe_filter hsee (.refl name (empty limit))]
  have hfirst : Agree name ((empty limit).run first) _ := (Agree.refl name (empty limit)).run
  have hsecond : Agree name ((empty limit).run second) _ := (Agree.refl name (empty limit)).run
  refine ⟨hsame (about_shareOf name), hsame (about_takenBy name), hsame (about_refusedBy name),
    hsame (about_evictedFrom name), ?_, fun hp hp' => ?_⟩
  · rw [hfirst.subscription, h, hsecond.subscription]
  · rw [filter_observe_reported (inOrder_empty limit) hp,
      filter_observe_reported (inOrder_empty limit) hp', hsame (about_losses name)]

/-- An event about nothing in particular. -/
def anyEvent (type : EventType) : Event := ⟨type, .null, .null, .null, .null, .null, .null⟩

/-- A subscriber has room for one event, misses another one, and takes the first before it
    leaves. -/
def quietHistory : List Step :=
  [.subscribe "watcher", .publish (anyEvent .created), .publish (anyEvent .unchanged),
    .next "watcher", .unsubscribe "watcher", .next "watcher"]

/-- The same, while others join, stall, take and leave. -/
def busyHistory : List Step :=
  [.subscribe "early", .subscribe "watcher", .publish (anyEvent .created), .next "early",
    .subscribe "late", .publish (anyEvent .unchanged), .unsubscribe "early", .next "watcher",
    .unsubscribe "late", .unsubscribe "watcher", .next "early", .next "watcher"]

theorem subscribers_isolated_busy :
    quietHistory.filter (Step.regards "watcher") = busyHistory.filter (Step.regards "watcher") ∧
    observe (takenBy "watcher") (empty 1) busyHistory = [.event (anyEvent .created), .ended] ∧
    observe (refusedBy "watcher") (empty 1) busyHistory = [anyEvent .unchanged] := by
  have hsame : quietHistory.filter (Step.regards "watcher") =
      busyHistory.filter (Step.regards "watcher") := rfl
  obtain ⟨-, htaken, hrefused, -⟩ := subscribers_isolated 1 "watcher" hsame
  exact ⟨hsame, htaken.symm.trans rfl, hrefused.symm.trans rfl⟩

end Bus

end AlbListener

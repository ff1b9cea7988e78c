import AlbListener.Proofs.Event.Ledger

/-!
# What subscribers get

The events that are published while a subscriber is there reach it in order, each once, but for
those that find its queue full and the one that makes room for the mark of the end. After the last
event the subscriber is told, once, that there is nothing more to come.

Results:
* `observe_since`: of a subscriber nothing is seen before it joins.
* `Told.delivers`: the ledger since a subscriber joined is its ledger in the whole history.
* `delivery_law`: what becomes of the events in any history of a bus.
-/

namespace AlbListener

namespace Bus

variable {bus : Bus} {name : String} {s : Subscription} {step : Step} {steps : List Step}

/-! ## Before a subscriber joins -/

/-- A subscriber that is there after a step and did not join in it was there before. -/
theorem subscription?_eq_none_of_after (h : (bus.after step).subscription? name = none) :
    bus.subscription? name = none := by
  cases hs : bus.subscription? name with
  | none => rfl
  | some s =>
    cases step with
    | subscribe => cases (subscription?_subscribe hs).symm.trans h
    | publish e => cases (subscription?_publish e hs).symm.trans h
    | unsubscribe other => cases (subscription?_unsubscribe other hs).symm.trans h
    | next other => cases (subscription?_next other hs).symm.trans h

theorem subscription?_eq_none_of_run (h : (bus.run steps).subscription? name = none) :
    bus.subscription? name = none := by
  induction steps generalizing bus with
  | nil => exact h
  | cons step rest ih => exact subscription?_eq_none_of_after (ih h)

/-- Of a subscriber that is not there in the end nothing is seen, if a step shows nothing of a
    subscriber that is not there. -/
theorem observe_of_absent {γ : Type} {see : Bus → Step → List γ}
    (hsee : ∀ bus : Bus, ∀ step, bus.InOrder → bus.subscription? name = none →
      (bus.after step).subscription? name = none → see bus step = [])
    (hin : bus.InOrder) (hp : bus.Possible steps) (h : (bus.run steps).subscription? name = none) :
    observe see bus steps = [] := by
  induction steps generalizing bus with
  | nil => rfl
  | cons step rest ih =>
    have hafter : (bus.after step).subscription? name = none := subscription?_eq_none_of_run h
    rw [observe, hsee bus step hin (subscription?_eq_none_of_after hafter) hafter,
      ih (hin.after hp.1) hp.2 h]
    rfl

theorem takenBy_of_absent (h : bus.subscription? name = none) (step : Step) :
    bus.takenBy name step = [] := by
  cases step with
  | next other =>
    rw [takenBy, receive?, queue?_eq, h]
    split_ifs <;> rfl
  | subscribe => rfl
  | publish => rfl
  | unsubscribe => rfl

theorem offeredTo_of_absent (h : bus.subscription? name = none) (step : Step) :
    bus.offeredTo name step = [] := by
  cases step with
  | publish e => rw [offeredTo, h]
  | subscribe => rfl
  | next => rfl
  | unsubscribe => rfl

theorem refusedBy_of_absent (h : bus.subscription? name = none) (step : Step) :
    bus.refusedBy name step = [] := by
  cases step with
  | publish e => rw [refusedBy, isFullFor_of_none h]; rfl
  | subscribe => rfl
  | next => rfl
  | unsubscribe => rfl

theorem evictedFrom_of_absent (h : bus.subscription? name = none) (step : Step) :
    bus.evictedFrom name step = [] := by
  cases step with
  | unsubscribe other =>
    rw [evictedFrom, if_neg fun hfull => ?_]
    exact Bool.false_ne_true ((isFullFor_of_none h).symm.trans hfull.2)
  | subscribe => rfl
  | next => rfl
  | publish => rfl

theorem filter_reported_of_absent (hin : bus.InOrder) (h : bus.subscription? name = none)
    (step : Step) : (bus.reported step).filter (concerns name) = [] := by
  rw [filter_reported hin, refusedBy_of_absent h, evictedFrom_of_absent h]
  rfl

theorem filter_observe {γ : Type} (p : γ → Bool) (see : Bus → Step → List γ) (bus : Bus)
    (steps : List Step) :
    (observe see bus steps).filter p = observe (fun bus step => (see bus step).filter p) bus steps := by
  induction steps generalizing bus with
  | nil => rfl
  | cons step rest ih => rw [observe, List.filter_append, ih]; rfl

/-- What is seen of a subscriber is seen after it joined. -/
theorem observe_since {γ : Type} {see : Bus → Step → List γ} {before after : List Step}
    (hsee : ∀ bus : Bus, ∀ step, bus.InOrder → bus.subscription? name = none →
      (bus.after step).subscription? name = none → see bus step = [])
    (hjoin : ∀ bus : Bus, see bus (.subscribe name) = []) (hin : bus.InOrder)
    (hp : bus.Possible (before ++ .subscribe name :: after)) :
    observe see bus (before ++ .subscribe name :: after) =
      observe see ((bus.run before).after (.subscribe name)) after := by
  obtain ⟨hbefore, hnew, -⟩ := possible_append.mp hp
  rw [observe_append, observe_of_absent hsee hin hbefore hnew, observe, hjoin]
  rfl

/-! ## The law -/

theorem limit_run (bus : Bus) (steps : List Step) : (bus.run steps).limit = bus.limit := by
  induction steps generalizing bus with
  | nil => rfl
  | cons step rest ih => exact (ih _).trans (limit_after _ _)

/-- On a bus without a limit no queue is ever full. -/
theorem mem_observe_of_limit {γ : Type} {see : Bus → Step → List γ} {p : γ → Prop}
    (hsee : ∀ bus : Bus, bus.limit ≤ 0 → ∀ step, ∀ x ∈ see bus step, p x) (hlimit : bus.limit ≤ 0) :
    ∀ x ∈ observe see bus steps, p x := by
  induction steps generalizing bus with
  | nil => exact nofun
  | cons step rest ih =>
    intro x hx
    rcases List.mem_append.mp hx with hx | hx
    · exact hsee bus hlimit step x hx
    · exact ih (by rw [limit_after]; exact hlimit) x hx

theorem refused_of_unlimited (hlimit : bus.limit ≤ 0) :
    ∀ offer ∈ observe (offeredTo name) bus steps, offer.2 = false := by
  refine mem_observe_of_limit (fun bus hlimit step offer hoffer => ?_) hlimit
  cases step with
  | publish e =>
    rw [offeredTo] at hoffer
    split at hoffer
    · split_ifs at hoffer
      · rw [List.mem_singleton.mp hoffer]
        exact isFull_of_not_pos hlimit _
      · cases hoffer
    · cases hoffer
  | subscribe => cases hoffer
  | next => cases hoffer
  | unsubscribe => cases hoffer

theorem evicted_of_unlimited (hlimit : bus.limit ≤ 0) :
    observe (evictedFrom name) bus steps = [] := by
  refine List.eq_nil_iff_forall_not_mem.mpr
    (mem_observe_of_limit (fun bus hlimit step e he => ?_) hlimit)
  cases step with
  | unsubscribe other =>
    have hnever : bus.isFullFor name = false := by
      rw [isFullFor]
      split
      · rw [isFull_of_not_pos hlimit, Bool.and_false]
      · rfl
    rw [evictedFrom, if_neg fun h => Bool.false_ne_true (hnever.symm.trans h.2)] at he
    cases he
  | subscribe => cases he
  | next => cases he
  | publish => cases he

/-- What a history of a bus makes of a subscriber, given what came after it joined and the ledger
    of the events that were published to it. -/
structure Delivers (limit : Int) (name : String) (steps after : List Step)
    (ledger : List (Event × Fate)) : Prop where
  /-- The ledger has the events that were published until the subscriber left, in order. -/
  published : ledger.map Prod.fst = publishedTo name after
  /-- Those that it keeps are got by the subscriber or wait for it. -/
  kept : withFate .kept ledger =
    (observe (takenBy name) (empty limit) steps).filterMap Received.event? ++
      (((empty limit).run steps).waitingFor name).filterMap Item.event?
  /-- So what is got and what waits comes in the order of publishing. -/
  ordered : ((observe (takenBy name) (empty limit) steps).filterMap Received.event? ++
    (((empty limit).run steps).waitingFor name).filterMap Item.event?).Sublist
      (publishedTo name after)
  /-- Refused is exactly what was published while the queue was full. -/
  refused : ledger.map (fun entry => (entry.1, decide (entry.2 = .refused))) =
    observe (offeredTo name) (empty limit) steps
  /-- Evicted is the oldest event of a full queue when it is closed. -/
  evicted : withFate .evicted ledger = observe (evictedFrom name) (empty limit) steps
  evictedOnce : (withFate .evicted ledger).length ≤ 1
  /-- Each loss has a warning, and there is no other warning about the subscriber. -/
  warned : (observe reported (empty limit) steps).filter (concerns name) =
    (withFate .refused ledger).map (droppedEvent · name) ++
      (withFate .evicted ledger).map fun _ => droppedOldest name
  bounded : 0 < limit → ((((empty limit).run steps).waitingFor name).length : Int) ≤ limit
  unbounded : limit ≤ 0 → withFate .kept ledger = publishedTo name after
  /-- Before the subscriber leaves, it gets events only, and only events wait. -/
  staying : after.any (Step.leaves name) = false → ∃ got queued : List Event,
    observe (takenBy name) (empty limit) steps = got.map .event ∧
      ((empty limit).run steps).waitingFor name = queued.map .event
  /-- After that the end is marked behind all events, or has been told after all events; who takes
      everything gets what is left and is told the end. -/
  leaving : after.any (Step.leaves name) = true → ∃ got queued : List Event,
    observe (takenBy name) (empty limit) steps = got.map .event ++ [.ended] ∧
        ((empty limit).run steps).waitingFor name = [] ∨
      observe (takenBy name) (empty limit) steps = got.map .event ∧
        ((empty limit).run steps).waitingFor name = queued.map .event ++ [.finish] ∧
        ∃ bus, ((empty limit).run steps).receiveAll? name =
          some (queued.map .event ++ [.ended], bus)

/-- The ledger since a subscriber joined is its ledger in the whole history. -/
theorem Told.delivers {limit : Int} {before after : List Step} {got : List Event}
    {ledger : List (Event × Fate)}
    (told : Told name (((empty limit).run before).after (.subscribe name)) after s got ledger)
    (h : (empty limit).Possible (before ++ .subscribe name :: after)) :
    Delivers limit name (before ++ .subscribe name :: after) after ledger := by
  have hin : ((empty limit).run (before ++ .subscribe name :: after)).InOrder :=
    (inOrder_empty limit).run h
  have hthere : ((empty limit).run (before ++ .subscribe name :: after)).subscription? name =
      some s := by
    rw [run_append]
    exact told.there
  have horderly := hin.orderly s (mem_of_subscription? hthere)
  have hlimit : ((empty limit).run (before ++ .subscribe name :: after)).limit = limit := by
    generalize before ++ .subscribe name :: after = steps
    exact limit_run _ _
  rw [hlimit] at horderly
  have hwaiting : ((empty limit).run (before ++ .subscribe name :: after)).waitingFor name =
      s.queue := by
    rw [waitingFor, queue?_eq, hthere]
    rfl
  have htaken := (observe_since (fun bus step _ h _ => takenBy_of_absent h step) (fun _ => rfl)
    (inOrder_empty limit) h).trans told.taken
  have hevents : (observe (takenBy name) (empty limit)
      (before ++ .subscribe name :: after)).filterMap Received.event? = got := by
    rw [htaken, List.filterMap_append, filterMap_event?_map]
    split_ifs
    · exact List.append_nil got
    · exact List.append_nil got
  have hoffered := told.offered.trans (observe_since (fun bus step _ h _ => offeredTo_of_absent h step)
    (fun _ => rfl) (inOrder_empty limit) h).symm
  have hevicted := told.evicted.trans (observe_since
    (fun bus step _ h _ => evictedFrom_of_absent h step) (fun _ => rfl) (inOrder_empty limit) h).symm
  have hkept : withFate .kept ledger = (observe (takenBy name) (empty limit)
      (before ++ .subscribe name :: after)).filterMap Received.event? ++
        (((empty limit).run (before ++ .subscribe name :: after)).waitingFor name).filterMap
          Item.event? := by
    rw [hevents, hwaiting, told.kept]
  exact {
    published := told.published
    kept := hkept
    ordered := by
      rw [← hkept, ← told.published]
      exact withFate_sublist _ _
    refused := hoffered
    evicted := hevicted
    evictedOnce := told.single
    warned := by
      rw [filter_observe, observe_since
        (fun bus step hin h _ => filter_reported_of_absent hin h step) (fun _ => rfl)
        (inOrder_empty limit) h, ← filter_observe, told.warned]
    bounded := fun hpos => by
      rw [hwaiting]
      exact horderly.bounded hpos
    unbounded := fun hnone => by
      rw [← told.published]
      refine withFate_kept_eq ?_ (hevicted.trans (evicted_of_unlimited hnone))
      rw [withFate, List.map_eq_nil_iff, List.filter_eq_nil_iff]
      intro entry hm hrefused
      have hoffer := @refused_of_unlimited _ name _ hnone _ (hoffered ▸ List.mem_map_of_mem hm)
      exact absurd hoffer (by simpa using hrefused)
    staying := fun hstays => by
      have hopen : s.isOpen = true := by rw [told.isOpen, hstays]; rfl
      obtain ⟨queued, hqueue⟩ := horderly.events hopen
      refine ⟨got, queued, ?_, by rw [hwaiting, hqueue]⟩
      rw [htaken, if_neg fun h => Bool.false_ne_true (h.1.symm.trans hopen), List.append_nil]
    leaving := fun hleft => by
      have hclosed : s.isOpen = false := by rw [told.isOpen, hleft]; rfl
      rcases horderly.finished hclosed with hqueue | ⟨queued, hqueue⟩
      · exact ⟨got, [], .inl ⟨by rw [htaken, if_pos ⟨hclosed, hqueue⟩], by rw [hwaiting, hqueue]⟩⟩
      · have hsome : s.queue ≠ [] := by
          rw [hqueue]
          exact List.append_ne_nil_of_right_ne_nil _ (List.cons_ne_nil _ _)
        refine ⟨got, queued, .inr ⟨?_, by rw [hwaiting, hqueue], ?_⟩⟩
        · rw [htaken, if_neg fun h => hsome h.2, List.append_nil]
        · rw [receiveAll?, queue?_eq, hthere, Option.map_some, Option.map_some, hqueue,
            drain_events]
          exact ⟨_, rfl⟩ }

/-- Whatever happens on a bus, publishing and leaving do not fail, and every subscriber gets the
    events that are published while it is there, but for those that are told to be lost. -/
theorem delivery_law (limit : Int) (steps : List Step) (h : (empty limit).Possible steps) :
    (∀ e, ((empty limit).run steps).publishing e = .ok (((empty limit).run steps).publish e)) ∧
    (∀ name, ((empty limit).run steps).unsubscribing name =
      .ok (((empty limit).run steps).unsubscribe name)) ∧
    ∀ name before after, steps = before ++ .subscribe name :: after →
      ∃ ledger, Delivers limit name steps after ledger := by
  have hin : ((empty limit).run steps).InOrder := (inOrder_empty limit).run h
  refine ⟨publishing_eq _, unsubscribing_eq hin, ?_⟩
  rintro name before after rfl
  obtain ⟨hbefore, hnew, hafter⟩ := possible_append.mp h
  have hstart := ((inOrder_empty limit).run hbefore).after hnew
  obtain ⟨s, got, ledger, told⟩ := told_run hstart (subscription?_join hnew) hafter
  exact ⟨ledger, told.delivers h⟩

/-- A subscriber joins, two events are published, it leaves and takes an item. -/
def shortHistory : List Step :=
  [.subscribe "watcher", .publish ⟨.created, .null, .null, .null, .null, .null, .null⟩,
    .publish ⟨.unchanged, .null, .null, .null, .null, .null, .null⟩, .unsubscribe "watcher",
    .next "watcher"]

/-- With room for one event, the second is refused by a full queue and the first makes room for the
    mark of the end: the subscriber is told the end and nothing else. -/
theorem delivery_law_short : (empty 1).Possible shortHistory ∧
    (∃ ledger, Delivers 1 "watcher" shortHistory (shortHistory.drop 1) ledger) ∧
    observe (takenBy "watcher") (empty 1) shortHistory = [.ended] := by
  have hpossible : (empty 1).Possible shortHistory :=
    ⟨rfl, trivial, trivial, trivial, ⟨_, rfl, nofun⟩, trivial⟩
  exact ⟨hpossible, (delivery_law 1 shortHistory hpossible).2.2 "watcher" [] _ rfl, rfl⟩

end Bus

end AlbListener

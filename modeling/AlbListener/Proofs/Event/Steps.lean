import AlbListener.Proofs.Event.Subscription

/-!
# Steps on a bus

On a bus subscribers join, events are published, subscribers leave and take what waits for them, in
any order (`Step`). A step is possible if a subscriber that joins is new, and if there is something
to be taken. What is seen of a run, such as what is reported and what one subscriber takes, is seen
step by step (`observe`).

Results:
* `subscription?_publish`, `subscription?_unsubscribe`, `subscription?_next`: what a step does to
  one subscriber.
* `InOrder.after`, `InOrder.run`: a bus stays in order.
* `publishing_eq`, `unsubscribing_eq`: on a bus in order no step fails.
-/

namespace AlbListener

namespace Bus

/-- What happens on a bus. -/
inductive Step
  | subscribe (subscriber : String)
  | publish (e : Event)
  | unsubscribe (subscriber : String)
  | next (subscriber : String)

/-- The subscription under a name. -/
def subscription? (bus : Bus) (name : String) : Option Subscription :=
  bus.subscriptions.find? fun s => s.subscriber == name

/-- Whether a step can be taken: a subscriber that joins is new, and one that takes an item finds
    something. -/
def Enabled (bus : Bus) : Step → Prop
  | .subscribe name => bus.subscription? name = none
  | .publish _ | .unsubscribe _ => True
  | .next name => ∃ s, bus.subscription? name = some s ∧ s.queue ≠ []

/-- A bus after a step. -/
def after (bus : Bus) : Step → Bus
  | .subscribe name => bus.subscribe name
  | .publish e => (bus.publish e).1
  | .unsubscribe name => (bus.unsubscribe name).1
  | .next name => ((bus.receive? name).map Prod.snd).getD bus

/-- A bus after some steps. -/
def run (bus : Bus) (steps : List Step) : Bus := steps.foldl after bus

/-- Whether some steps can be taken one after the other. -/
def Possible : Bus → List Step → Prop
  | _, [] => True
  | bus, step :: rest => bus.Enabled step ∧ Possible (bus.after step) rest

/-- What is seen of some steps, one after the other. -/
def observe {γ : Type} (see : Bus → Step → List γ) : Bus → List Step → List γ
  | _, [] => []
  | bus, step :: rest => see bus step ++ observe see (bus.after step) rest

variable {bus : Bus} {name : String} {s : Subscription} {step : Step}

theorem run_append (bus : Bus) (first second : List Step) :
    bus.run (first ++ second) = (bus.run first).run second := List.foldl_append

theorem possible_append {first second : List Step} :
    bus.Possible (first ++ second) ↔ bus.Possible first ∧ (bus.run first).Possible second := by
  induction first generalizing bus with
  | nil => exact ⟨fun h => ⟨trivial, h⟩, And.right⟩
  | cons step rest ih =>
    rw [List.cons_append, Possible, Possible, ih, and_assoc]
    rfl

theorem observe_append {γ : Type} (see : Bus → Step → List γ) (bus : Bus)
    (first second : List Step) :
    observe see bus (first ++ second) = observe see bus first ++ observe see (bus.run first) second := by
  induction first generalizing bus with
  | nil => rfl
  | cons step rest ih =>
    rw [List.cons_append, observe, observe, ih, List.append_assoc]
    rfl

/-! ## One subscriber -/

theorem subscriber_of_subscription? (h : bus.subscription? name = some s) :
    s.subscriber = name := by
  rw [subscription?] at h
  simpa using List.find?_some h

theorem mem_of_subscription? (h : bus.subscription? name = some s) : s ∈ bus.subscriptions :=
  List.mem_of_find?_eq_some h

theorem deliver_subscriber (limit : Int) (e : Event) (s : Subscription) :
    (deliver limit e s).1.subscriber = s.subscriber := by
  unfold deliver
  split_ifs <;> rfl

theorem deliver_isOpen (limit : Int) (e : Event) (s : Subscription) :
    (deliver limit e s).1.isOpen = s.isOpen := by
  unfold deliver
  split_ifs <;> rfl

theorem close_subscriber (limit : Int) (s : Subscription) :
    (close limit s).1.subscriber = s.subscriber := by
  unfold close
  split_ifs <;> rfl

theorem close_isOpen (limit : Int) (s : Subscription) : (close limit s).1.isOpen = false := by
  unfold close
  split_ifs with h
  · simpa using h
  · rfl
  · rfl

theorem take_eq_drop (queue : List Item) : (take queue).2 = queue.drop 1 := by
  cases queue with
  | nil => rfl
  | cons item rest => cases item <;> rfl

/-- What changes every subscription, but no name, changes the one under a name. -/
theorem find?_map_subscriber {f : Subscription → Subscription}
    (hf : ∀ s, (f s).subscriber = s.subscriber) (subscriptions : List Subscription)
    (name : String) :
    (subscriptions.map f).find? (fun s => s.subscriber == name) =
      (subscriptions.find? fun s => s.subscriber == name).map f := by
  rw [List.find?_map]
  congr 2
  funext s
  rw [Function.comp_apply, hf]

theorem queue?_eq (bus : Bus) (name : String) :
    bus.queue? name = (bus.subscription? name).map (·.queue) := rfl

/-- A subscriber that joins changes nothing for the others. -/
theorem subscription?_subscribe {other : String} (h : bus.subscription? name = some s) :
    (bus.after (.subscribe other)).subscription? name = some s := by
  rw [subscription?] at h ⊢
  show (bus.subscriptions ++ [_]).find? _ = _
  rw [List.find?_append, h]
  rfl

theorem subscription?_join (h : bus.subscription? name = none) :
    (bus.after (.subscribe name)).subscription? name = some ⟨name, true, []⟩ := by
  rw [subscription?] at h ⊢
  show (bus.subscriptions ++ [_]).find? _ = _
  rw [List.find?_append, h]
  simp

theorem subscriptions_publish (bus : Bus) (e : Event) :
    (bus.after (.publish e)).subscriptions =
      bus.subscriptions.map fun s => (deliver bus.limit e s).1 :=
  List.map_map

/-- What publishing does to a subscriber. -/
theorem subscription?_publish (e : Event) (h : bus.subscription? name = some s) :
    (bus.after (.publish e)).subscription? name = some (deliver bus.limit e s).1 := by
  rw [subscription?] at h
  rw [subscription?, subscriptions_publish, find?_map_subscriber (deliver_subscriber bus.limit e), h]
  rfl

theorem subscriptions_unsubscribe (bus : Bus) (other : String) :
    (bus.after (.unsubscribe other)).subscriptions =
      bus.subscriptions.map fun s =>
        if s.subscriber = other then (close bus.limit s).1 else s := by
  refine List.map_map.trans (List.map_congr_left fun s _ => ?_)
  rw [Function.comp_apply]
  split_ifs <;> rfl

/-- What it does to a subscriber that one leaves. -/
theorem subscription?_unsubscribe (other : String) (h : bus.subscription? name = some s) :
    (bus.after (.unsubscribe other)).subscription? name =
      some (if other = name then (close bus.limit s).1 else s) := by
  have hname := subscriber_of_subscription? h
  have hkept (s : Subscription) :
      (if s.subscriber = other then (close bus.limit s).1 else s).subscriber = s.subscriber := by
    split_ifs
    · exact close_subscriber _ _
    · rfl
  rw [subscription?] at h
  rw [subscription?, subscriptions_unsubscribe, find?_map_subscriber hkept, h, Option.map_some,
    hname]
  simp only [eq_comm (a := name)]

theorem subscriptions_next (h : bus.subscription? name = some s) :
    (bus.after (.next name)).subscriptions =
      bus.subscriptions.map fun other =>
        if other.subscriber = name then { other with queue := s.queue.drop 1 } else other := by
  rw [after, receive?, queue?_eq, h, ← take_eq_drop]
  rfl

theorem after_next_of_none (h : bus.subscription? name = none) : bus.after (.next name) = bus := by
  rw [after, receive?, queue?_eq, h]
  rfl

/-- What it does to a subscriber that one takes an item. -/
theorem subscription?_next (other : String) (h : bus.subscription? name = some s) :
    (bus.after (.next other)).subscription? name =
      some (if other = name then { s with queue := s.queue.drop 1 } else s) := by
  have hname := subscriber_of_subscription? h
  by_cases hn : other = name
  · subst hn
    rw [if_pos rfl, subscription?, subscriptions_next h,
      find?_map_subscriber (fun s => by split_ifs <;> rfl)]
    rw [subscription?] at h
    rw [h, Option.map_some, if_pos hname]
  · rw [if_neg hn]
    cases ho : bus.subscription? other with
    | none => rw [after_next_of_none ho, h]
    | some taken =>
      rw [subscription?, subscriptions_next ho,
        find?_map_subscriber (fun s => by split_ifs <;> rfl)]
      rw [subscription?] at h
      rw [h, Option.map_some, hname, if_neg fun e => hn e.symm]

theorem limit_after (bus : Bus) (step : Step) : (bus.after step).limit = bus.limit := by
  cases step with
  | subscribe => rfl
  | publish => rfl
  | unsubscribe => rfl
  | next name =>
    rw [after, receive?]
    cases bus.queue? name <;> rfl

/-! ## Order -/

/-- A bus on which names are told apart and every subscription is orderly. -/
structure InOrder (bus : Bus) : Prop where
  distinct : (bus.subscriptions.map (·.subscriber)).Nodup
  orderly : ∀ s ∈ bus.subscriptions, Orderly bus.limit s

theorem inOrder_empty (limit : Int) : (empty limit).InOrder :=
  ⟨List.nodup_nil, fun _ h => by cases h⟩

theorem names_map {f : Subscription → Subscription} (hf : ∀ s, (f s).subscriber = s.subscriber)
    (subscriptions : List Subscription) :
    (subscriptions.map f).map (·.subscriber) = subscriptions.map (·.subscriber) := by
  rw [List.map_map]
  exact List.map_congr_left fun s _ => hf s

/-- The step lemma: a bus stays in order. -/
theorem InOrder.after (h : bus.InOrder) (he : bus.Enabled step) : (bus.after step).InOrder := by
  refine ⟨?_, ?_⟩
  · cases step with
    | subscribe name =>
      have hnew : name ∉ bus.subscriptions.map (·.subscriber) := by
        rintro hm
        obtain ⟨s, hs, rfl⟩ := List.mem_map.mp hm
        have := List.find?_eq_none.mp he s hs
        simp at this
      show ((bus.subscriptions ++ [_]).map _).Nodup
      rw [List.map_append]
      exact List.nodup_append'.mpr ⟨h.distinct, List.nodup_singleton _,
        List.disjoint_singleton.mpr hnew⟩
    | publish e =>
      rw [subscriptions_publish, names_map (deliver_subscriber _ _)]
      exact h.distinct
    | unsubscribe name =>
      rw [subscriptions_unsubscribe, names_map]
      · exact h.distinct
      · intro s
        split_ifs
        · exact close_subscriber _ _
        · rfl
    | next name =>
      obtain ⟨s, hs, -⟩ := he
      rw [subscriptions_next hs, names_map (fun s => by split_ifs <;> rfl)]
      exact h.distinct
  · rw [limit_after]
    cases step with
    | subscribe name =>
      intro s hs
      rcases List.mem_append.mp hs with hs | hs
      · exact h.orderly s hs
      · rw [List.mem_singleton.mp hs]
        exact orderly_join _ _
    | publish e =>
      rw [subscriptions_publish, List.forall_mem_map]
      exact fun s hs => (h.orderly s hs).deliver e
    | unsubscribe name =>
      rw [subscriptions_unsubscribe, List.forall_mem_map]
      intro s hs
      split_ifs
      · exact (h.orderly s hs).close
      · exact h.orderly s hs
    | next name =>
      obtain ⟨s, hs, -⟩ := he
      rw [subscriptions_next hs, List.forall_mem_map]
      intro other ho
      split_ifs with hname
      · -- names are distinct, so this is the subscription that was found
        have hsame : other = s := List.inj_on_of_nodup_map h.distinct ho (mem_of_subscription? hs)
          (hname.trans (subscriber_of_subscription? hs).symm)
        rw [hsame]
        exact (h.orderly s (mem_of_subscription? hs)).drop
      · exact h.orderly other ho

/-- A bus stays in order over a run. -/
theorem InOrder.run {steps : List Step} (h : bus.InOrder) (hp : bus.Possible steps) :
    (bus.run steps).InOrder := by
  induction steps generalizing bus with
  | nil => exact h
  | cons step rest ih => exact ih (h.after hp.1) hp.2

/-! ## No step fails -/

/-- The results of steps that may fail, for all subscriptions. -/
def collect (bus : Bus)
    (change : Subscription → Except QueueFault (Subscription × List LogRecord)) :
    Except QueueFault (Bus × List LogRecord) := do
  let results ← bus.subscriptions.mapM change
  return ({ bus with subscriptions := results.map Prod.fst }, results.flatMap Prod.snd)

/-- Publishes an event by putting it into each queue. -/
def publishing (bus : Bus) (e : Event) : Except QueueFault (Bus × List LogRecord) :=
  bus.collect (delivering bus.limit e)

/-- Lets a subscriber leave by closing its queue. -/
def unsubscribing (bus : Bus) (name : String) : Except QueueFault (Bus × List LogRecord) :=
  bus.collect fun s => if s.subscriber = name then closing bus.limit s else .ok (s, [])

theorem collect_eq {change : Subscription → Except QueueFault (Subscription × List LogRecord)}
    {result : Subscription → Subscription × List LogRecord}
    (h : ∀ s ∈ bus.subscriptions, change s = .ok (result s)) :
    bus.collect change = .ok ({ bus with subscriptions := (bus.subscriptions.map result).map Prod.fst },
      (bus.subscriptions.map result).flatMap Prod.snd) := by
  have hall : bus.subscriptions.mapM change = .ok (bus.subscriptions.map result) := by
    generalize bus.subscriptions = subscriptions at h
    induction subscriptions with
    | nil => rfl
    | cons s rest ih =>
      rw [List.mapM_cons, h s List.mem_cons_self, ih fun s hs => h s (List.mem_cons_of_mem _ hs)]
      rfl
  rw [collect, hall]
  rfl

theorem publishing_eq (bus : Bus) (e : Event) : bus.publishing e = .ok (bus.publish e) :=
  collect_eq fun s _ => delivering_eq bus.limit e s

theorem unsubscribing_eq (h : bus.InOrder) (name : String) :
    bus.unsubscribing name = .ok (bus.unsubscribe name) := by
  refine collect_eq fun s hs => ?_
  split_ifs
  · exact closing_eq (h.orderly s hs)
  · rfl

end Bus

end AlbListener

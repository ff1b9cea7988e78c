import Mathlib.Data.List.Basic
import AlbListener.Proofs.Event.Steps

/-!
# What subscribers lose

A subscriber loses an event that finds its queue full, and the oldest one if its queue is full when
it leaves. Both losses are reported, and what is reported tells who has lost what.

Results:
* `concerns_droppedEvent_iff`, `concerns_droppedOldest_iff`: a warning names one subscriber.
* `filter_reported`: what a step reports about a subscriber is what the step loses of it.
-/

namespace AlbListener

namespace Bus

variable {bus : Bus} {name : String} {s : Subscription}

/-! ## Losses -/

/-- What a step reports. -/
def reported (bus : Bus) : Step → List LogRecord
  | .publish e => (bus.publish e).2
  | .unsubscribe name => (bus.unsubscribe name).2
  | _ => []

/-- Whether a subscriber still gets events but has a full queue. -/
def isFullFor (bus : Bus) (name : String) : Bool :=
  match bus.subscription? name with
  | some s => s.isOpen && isFull bus.limit s.queue.length
  | none => false

/-- The event that a full queue refuses in a step. -/
def refusedBy (name : String) (bus : Bus) : Step → List Event
  | .publish e => if bus.isFullFor name then [e] else []
  | _ => []

/-- The oldest event of a full queue that is closed in a step. -/
def evictedFrom (name : String) (bus : Bus) : Step → List Event
  | .unsubscribe other =>
    if other = name ∧ bus.isFullFor name = true then
      (((bus.queue? name).getD []).take 1).filterMap Item.event?
    else []
  | _ => []

/-! ## Warnings -/

/-- The types of event. -/
def eventTypes : List EventType := [.created, .modified, .unchanged, .failed]

/-- Whether a record is a warning about a loss of a subscriber. -/
def concerns (name : String) (record : LogRecord) : Bool :=
  record == droppedOldest name || eventTypes.any fun type =>
    record == warning ("Dropped " ++ type.name ++ " event for subscriber " ++ name ++ ": queue full")

theorem droppedEvent_inj {e e' : Event} {a b : String} (h : droppedEvent e a = droppedEvent e' b) :
    a = b := by
  have hmessage := congrArg (fun record => record.message.toList) h
  unfold droppedEvent warning at hmessage
  generalize e.type = type, e'.type = type' at hmessage
  cases type <;> cases type' <;>
    simp_all [EventType.name, String.toList_append, String.toList_inj]

theorem droppedEvent_ne_droppedOldest (e : Event) (a b : String) :
    droppedEvent e a ≠ droppedOldest b := by
  intro h
  have hmessage := congrArg (fun record => record.message.toList) h
  unfold droppedEvent droppedOldest warning at hmessage
  generalize e.type = type at hmessage
  cases type <;> simp_all [EventType.name, String.toList_append]

theorem droppedOldest_inj {a b : String} (h : droppedOldest a = droppedOldest b) : a = b := by
  have hmessage := congrArg (fun record => record.message.toList) h
  unfold droppedOldest warning at hmessage
  simp_all [String.toList_append, String.toList_inj]

theorem concerns_iff {record : LogRecord} :
    concerns name record = true ↔
      record = droppedOldest name ∨ ∃ e : Event, record = droppedEvent e name := by
  have htype (type : EventType) : type ∈ eventTypes := by cases type <;> decide
  simp only [concerns, Bool.or_eq_true, beq_iff_eq, List.any_eq_true]
  refine or_congr_right ⟨?_, ?_⟩
  · rintro ⟨type, -, h⟩
    exact ⟨⟨type, .null, .null, .null, .null, .null, .null⟩, h⟩
  · rintro ⟨e, h⟩
    exact ⟨e.type, htype _, h⟩

/-- The warning that an event was dropped names the subscriber that has lost it. -/
theorem concerns_droppedEvent_iff (e : Event) {other : String} :
    concerns name (droppedEvent e other) = true ↔ other = name := by
  rw [concerns_iff]
  constructor
  · rintro (h | ⟨e', h⟩)
    · exact absurd h (droppedEvent_ne_droppedOldest _ _ _)
    · exact droppedEvent_inj h
  · rintro rfl
    exact .inr ⟨e, rfl⟩

/-- So does the warning that the oldest event was dropped. -/
theorem concerns_droppedOldest_iff {other : String} :
    concerns name (droppedOldest other) = true ↔ other = name := by
  rw [concerns_iff]
  constructor
  · rintro (h | ⟨e, h⟩)
    · exact droppedOldest_inj h
    · exact absurd h.symm (droppedEvent_ne_droppedOldest _ _ _)
  · rintro rfl
    exact .inl rfl

/-- Of what is reported about all subscribers, what concerns one of them is about it alone. -/
theorem filter_flatMap_concerns {subscriptions : List Subscription}
    {report : Subscription → List LogRecord}
    (hreport : ∀ s, (report s).filter (concerns name) = if s.subscriber = name then report s else [])
    (hd : (subscriptions.map (·.subscriber)).Nodup) :
    (subscriptions.flatMap report).filter (concerns name) =
      ((subscriptions.find? fun s => s.subscriber == name).map report).getD [] := by
  induction subscriptions with
  | nil => rfl
  | cons s rest ih =>
    obtain ⟨hnew, hrest⟩ := List.nodup_cons.mp hd
    rw [List.flatMap_cons, List.filter_append, hreport, ih hrest, List.find?_cons]
    by_cases hname : s.subscriber = name
    · have hnone : rest.find? (fun s => s.subscriber == name) = none := by
        rw [List.find?_eq_none]
        intro other ho hsame
        exact hnew (List.mem_map.mpr ⟨other, ho, (beq_iff_eq.mp hsame).trans hname.symm⟩)
      rw [if_pos hname, beq_iff_eq.mpr hname, hnone]
      exact List.append_nil _
    · rw [if_neg hname, beq_false_of_ne hname]
      rfl

theorem isFullFor_eq (h : bus.subscription? name = some s) :
    bus.isFullFor name = (s.isOpen && isFull bus.limit s.queue.length) := by
  rw [isFullFor, h]

theorem isFullFor_of_none (h : bus.subscription? name = none) : bus.isFullFor name = false := by
  rw [isFullFor, h]

theorem deliver_report (limit : Int) (e : Event) (s : Subscription) :
    (deliver limit e s).2 =
      if (s.isOpen && isFull limit s.queue.length) = true then [droppedEvent e s.subscriber]
      else [] := by
  unfold deliver
  cases s.isOpen <;> cases isFull limit s.queue.length <;> rfl

theorem close_report (limit : Int) (s : Subscription) :
    (close limit s).2 =
      if (s.isOpen && isFull limit s.queue.length) = true then [droppedOldest s.subscriber]
      else [] := by
  unfold close
  cases s.isOpen <;> cases isFull limit s.queue.length <;> rfl

/-- An orderly queue that is full and open begins with an event. -/
theorem exists_oldest (h : bus.InOrder) (hs : bus.subscription? name = some s)
    (hfull : bus.isFullFor name = true) :
    ∃ e, ∃ rest : List Event, s.queue = .event e :: rest.map .event ∧ s.isOpen = true := by
  rw [isFullFor_eq hs, Bool.and_eq_true, isFull_eq_true_iff] at hfull
  obtain ⟨hopen, hlimit, hle⟩ := hfull
  obtain ⟨events, hevents⟩ := (h.orderly s (mem_of_subscription? hs)).events hopen
  cases events with
  | nil =>
    rw [hevents] at hle
    simp only [List.map_nil, List.length_nil] at hle
    omega
  | cons e rest => exact ⟨e, rest, hevents, hopen⟩

/-- The step lemma of warnings: what a step reports about a subscriber is what the subscriber
    loses. -/
theorem filter_reported (h : bus.InOrder) (step : Step) :
    (bus.reported step).filter (concerns name) =
      (bus.refusedBy name step).map (droppedEvent · name) ++
        (bus.evictedFrom name step).map fun _ => droppedOldest name := by
  cases step with
  | subscribe => rfl
  | next => rfl
  | publish e =>
    have hreport (s : Subscription) : (deliver bus.limit e s).2.filter (concerns name) =
        if s.subscriber = name then (deliver bus.limit e s).2 else [] := by
      rw [deliver_report]
      split_ifs with hfull hname hname
      · rw [List.filter_cons_of_pos ((concerns_droppedEvent_iff e).mpr hname)]
        rfl
      · rw [List.filter_cons_of_neg (mt (concerns_droppedEvent_iff e).mp hname)]
        rfl
      · rfl
      · rfl
    have hall : (bus.reported (.publish e)) =
        bus.subscriptions.flatMap fun s => (deliver bus.limit e s).2 := List.flatMap_map ..
    have hevicted : bus.evictedFrom name (.publish e) = [] := rfl
    rw [hall, filter_flatMap_concerns hreport h.distinct, refusedBy, hevicted, List.map_nil,
      List.append_nil, show (bus.subscriptions.find? _) = bus.subscription? name from rfl]
    cases hs : bus.subscription? name with
    | none => rw [isFullFor_of_none hs]; rfl
    | some s =>
      rw [Option.map_some, Option.getD_some, deliver_report, isFullFor_eq hs,
        subscriber_of_subscription? hs]
      split_ifs <;> rfl
  | unsubscribe other =>
    have hreport (s : Subscription) :
        ((if s.subscriber = other then close bus.limit s else (s, [])).2).filter (concerns name) =
          if s.subscriber = name then
            (if s.subscriber = other then close bus.limit s else (s, [])).2 else [] := by
      by_cases hother : s.subscriber = other
      · rw [if_pos hother, close_report]
        split_ifs with hfull hname hname
        · rw [List.filter_cons_of_pos (concerns_droppedOldest_iff.mpr hname)]
          rfl
        · rw [List.filter_cons_of_neg (mt concerns_droppedOldest_iff.mp hname)]
          rfl
        · rfl
        · rfl
      · rw [if_neg hother]
        split_ifs <;> rfl
    have hall : (bus.reported (.unsubscribe other)) = bus.subscriptions.flatMap fun s =>
        (if s.subscriber = other then close bus.limit s else (s, [])).2 := List.flatMap_map ..
    have hrefused : bus.refusedBy name (.unsubscribe other) = [] := rfl
    rw [hall, filter_flatMap_concerns hreport h.distinct, hrefused, evictedFrom, List.map_nil,
      List.nil_append, show (bus.subscriptions.find? _) = bus.subscription? name from rfl]
    cases hs : bus.subscription? name with
    | none => rw [isFullFor_of_none hs]; simp
    | some s =>
      have hname := subscriber_of_subscription? hs
      rw [Option.map_some, Option.getD_some, hname]
      by_cases hother : name = other
      · subst hother
        rw [if_pos rfl, close_report, ← isFullFor_eq hs, hname]
        by_cases hfull : bus.isFullFor name = true
        · obtain ⟨e, rest, hqueue, -⟩ := exists_oldest h hs hfull
          rw [if_pos hfull, if_pos ⟨rfl, hfull⟩, queue?_eq, hs, Option.map_some, Option.getD_some,
            hqueue]
          rfl
        · rw [if_neg hfull, if_neg fun h => hfull h.2]
          rfl
      · rw [if_neg hother, if_neg fun h => hother h.1.symm]
        rfl

end Bus

end AlbListener

import Mathlib.Data.List.Nodup
import AlbListener.Event.Bus

/-!
# The queue of a subscriber

The queue of a subscriber that gets events holds nothing but events; once the subscriber has left,
the mark of the end comes behind them and stays the last item until it is taken (`Orderly`). With
a limit, no queue is longer than that.

Putting an item into a full queue and taking one from an empty queue both fail. A queue that is
orderly is never used in a way that fails: what is delivered to it and how it is closed can be done
by putting and taking alone.

Results:
* `Orderly.deliver`, `Orderly.close`, `Orderly.drop`: queues stay orderly.
* `delivering_eq`, `closing_eq`: neither delivering nor closing fails.
* `drain_events`: taking everything from a queue that was closed ends.
-/

namespace AlbListener

/-- The event that an item is, unless it is the mark of the end. -/
def Item.event? : Item → Option Event
  | .event e => some e
  | .finish => none

theorem Item.filterMap_event?_map (events : List Event) :
    (events.map Item.event).filterMap Item.event? = events := by
  induction events with
  | nil => rfl
  | cons e rest ih =>
    have hhead : (Item.event e).event? = some e := rfl
    rw [List.map_cons, List.filterMap_cons_some hhead, ih]

namespace Bus

/-! ## Limits -/

theorem isFull_eq_true_iff {limit : Int} {length : ℕ} :
    isFull limit length = true ↔ 0 < limit ∧ limit ≤ length := by
  simp [isFull]

theorem isFull_of_not_pos {limit : Int} (h : limit ≤ 0) (length : ℕ) :
    isFull limit length = false := by
  rw [← Bool.not_eq_true, isFull_eq_true_iff]
  omega

/-- A subscription whose queue keeps to the limit, and holds the mark of the end last, and only
    after the subscriber has left. -/
structure Orderly (limit : Int) (s : Subscription) : Prop where
  bounded : 0 < limit → (s.queue.length : Int) ≤ limit
  events : s.isOpen = true → ∃ events : List Event, s.queue = events.map .event
  finished : s.isOpen = false →
    s.queue = [] ∨ ∃ events : List Event, s.queue = events.map .event ++ [.finish]

theorem orderly_join (limit : Int) (subscriber : String) : Orderly limit ⟨subscriber, true, []⟩ where
  bounded := fun h => Int.le_of_lt h
  events := fun _ => ⟨[], rfl⟩
  finished := fun h => by cases h

namespace Orderly

variable {limit : Int} {s : Subscription}

theorem deliver (h : Orderly limit s) (e : Event) : Orderly limit (Bus.deliver limit e s).1 := by
  unfold Bus.deliver
  split_ifs with hopen hfull
  · exact h
  · exact h
  · rw [Bool.not_eq_true, Bool.not_eq_false'] at hopen
    rw [isFull_eq_true_iff] at hfull
    obtain ⟨events, hevents⟩ := h.events hopen
    refine ⟨fun hlimit => ?_, fun _ => ⟨events ++ [e], ?_⟩, fun hclosed => ?_⟩
    · rw [List.length_append, List.length_singleton]
      push_cast
      omega
    · simp [hevents]
    · cases hopen.symm.trans hclosed

theorem close (h : Orderly limit s) : Orderly limit (Bus.close limit s).1 := by
  unfold Bus.close
  split_ifs with hopen hfull
  · exact h
  · rw [Bool.not_eq_true, Bool.not_eq_false'] at hopen
    rw [isFull_eq_true_iff] at hfull
    obtain ⟨events, hevents⟩ := h.events hopen
    have hlength := h.bounded hfull.1
    refine ⟨fun _ => ?_, nofun, fun _ => .inr ⟨events.drop 1, ?_⟩⟩
    · rw [List.length_append, List.length_drop, List.length_singleton]
      omega
    · rw [hevents, ← List.map_drop]
  · rw [Bool.not_eq_true, Bool.not_eq_false'] at hopen
    rw [isFull_eq_true_iff] at hfull
    obtain ⟨events, hevents⟩ := h.events hopen
    refine ⟨fun hlimit => ?_, nofun, fun _ => .inr ⟨events, ?_⟩⟩
    · rw [List.length_append, List.length_singleton]
      push_cast
      omega
    · rw [hevents]

/-- Taking the oldest item keeps a subscription orderly. -/
theorem drop (h : Orderly limit s) : Orderly limit { s with queue := s.queue.drop 1 } where
  bounded := fun hlimit => by
    have := h.bounded hlimit
    rw [List.length_drop]
    omega
  events := fun hopen => by
    obtain ⟨events, hevents⟩ := h.events hopen
    exact ⟨events.drop 1, by rw [hevents, List.map_drop]⟩
  finished := fun hclosed => by
    rcases h.finished hclosed with hnone | ⟨events, hevents⟩
    · exact .inl (by rw [hnone]; rfl)
    · rw [hevents]
      cases events with
      | nil => exact .inl rfl
      | cons e rest => exact .inr ⟨rest, rfl⟩

end Orderly

/-! ## Queues that may fail -/

/-- Why a queue cannot be used: there is no room in it, or nothing. -/
inductive QueueFault
  | full
  | empty

/-- The queue with an item put at its end, if it has room. -/
def putItem (limit : Int) (item : Item) (queue : List Item) : Except QueueFault (List Item) :=
  if isFull limit queue.length then .error .full else .ok (queue ++ [item])

/-- The oldest item of a queue and the queue without it. -/
def takeItem : List Item → Except QueueFault (Item × List Item)
  | [] => .error .empty
  | item :: rest => .ok (item, rest)

/-- Delivers an event by putting it into the queue; only that the queue is full is handled. -/
def delivering (limit : Int) (e : Event) (s : Subscription) :
    Except QueueFault (Subscription × List LogRecord) :=
  if !s.isOpen then .ok (s, []) else
    match putItem limit (.event e) s.queue with
    | .ok queue => .ok ({ s with queue }, [])
    | .error .full => .ok (s, [droppedEvent e s.subscriber])
    | .error fault => .error fault

/-- Closes a subscription by putting the mark of the end into its queue; if the queue is full, an
    item is taken from it first. -/
def closing (limit : Int) (s : Subscription) : Except QueueFault (Subscription × List LogRecord) :=
  if !s.isOpen then .ok (s, []) else
    match putItem limit .finish s.queue with
    | .ok queue => .ok ({ s with isOpen := false, queue }, [])
    | .error .full => do
      let (_, rest) ← takeItem s.queue
      let queue ← putItem limit .finish rest
      return ({ s with isOpen := false, queue }, [droppedOldest s.subscriber])
    | .error fault => .error fault

theorem delivering_eq (limit : Int) (e : Event) (s : Subscription) :
    delivering limit e s = .ok (deliver limit e s) := by
  unfold delivering deliver putItem
  split_ifs <;> rfl

/-- Closing an orderly subscription does not fail: there is something in a full queue, and room for
    the mark of the end once it is taken. -/
theorem closing_eq {limit : Int} {s : Subscription} (h : Orderly limit s) :
    closing limit s = .ok (close limit s) := by
  unfold closing close
  split_ifs with hopen hfull
  · rfl
  · obtain ⟨hlimit, hle⟩ := isFull_eq_true_iff.mp hfull
    have hlength := h.bounded hlimit
    rw [putItem, if_pos hfull]
    cases hqueue : s.queue with
    | nil =>
      rw [hqueue, List.length_nil] at hle
      omega
    | cons item rest =>
      have hroom : isFull limit rest.length = false := by
        rw [hqueue, List.length_cons] at hlength
        rw [← Bool.not_eq_true, isFull_eq_true_iff]
        push_cast at hlength
        omega
      simp [takeItem, putItem, hroom, bind, Except.bind, pure, Except.pure]
  · rw [putItem, if_neg hfull]

/-! ## Taking everything -/

/-- Taking everything from a queue with the mark of the end behind its events gives the events, and
    then ends. -/
theorem drain_events (events : List Event) :
    drain (events.map .event ++ [.finish]) = (events.map .event ++ [.ended], []) := by
  induction events with
  | nil => rfl
  | cons e rest ih => rw [List.map_cons, List.cons_append, drain, ih, List.map_cons, List.cons_append]

end Bus

end AlbListener

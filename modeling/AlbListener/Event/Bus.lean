import AlbListener.Event.Basic
import AlbListener.Log

/-!
# Event bus

Every subscriber has a queue of its own. Publishing never waits: an event for a full queue is
dropped and reported. When a subscriber leaves, the end is marked in its queue after the
events that are still there; if the queue is full, the oldest one makes room for the mark.
A limit of zero or less is no limit.

Subscribers are told apart by the names under which they joined.

Results:
* `deliver_of_room`: a subscriber with room in its queue gets the event.
* `deliver_of_full`: one with a full queue keeps what it has.
-/

namespace AlbListener

/-- What waits in the queue of a subscriber: an event, or the mark that ends it. -/
inductive Item
  | event (e : Event)
  | finish

/-- A subscriber: whether it still gets events, and what waits for it, the oldest first
    (`EventSubscription`). -/
structure Subscription where
  subscriber : String
  isOpen : Bool
  queue : List Item

/-- The subscribers in the order in which they joined, and the limit of their queues
    (`EventBus`). -/
structure Bus where
  limit : Int
  subscriptions : List Subscription

namespace Bus

/-- A bus without subscribers. -/
def empty (limit : Int) : Bus := ⟨limit, []⟩

/-- The limit of a queue if no other is given. -/
def defaultLimit : Int := 256

/-- Whether a queue of this length takes no more. -/
def isFull (limit : Int) (length : Nat) : Bool := decide (0 < limit) && decide (limit ≤ length)

/-- A warning of the bus. -/
def warning (message : String) : LogRecord := ⟨.warning, .events, message⟩

/-- The warning that an event was dropped. -/
def droppedEvent (e : Event) (subscriber : String) : LogRecord :=
  warning ("Dropped " ++ e.type.name ++ " event for subscriber " ++ subscriber ++ ": queue full")

/-- The warning that the oldest event made room for the end. -/
def droppedOldest (subscriber : String) : LogRecord :=
  warning ("Dropped oldest event while closing subscriber " ++ subscriber)

/-! ## One subscriber -/

/-- A subscription with one more event, and what has to be reported. -/
def deliver (limit : Int) (e : Event) (s : Subscription) : Subscription × List LogRecord :=
  if !s.isOpen then (s, [])
  else if isFull limit s.queue.length then (s, [droppedEvent e s.subscriber])
  else ({ s with queue := s.queue ++ [.event e] }, [])

/-- A subscription after its subscriber left. -/
def close (limit : Int) (s : Subscription) : Subscription × List LogRecord :=
  if !s.isOpen then (s, [])
  else if isFull limit s.queue.length then
    ({ s with isOpen := false, queue := s.queue.drop 1 ++ [.finish] },
      [droppedOldest s.subscriber])
  else ({ s with isOpen := false, queue := s.queue ++ [.finish] }, [])

/-- What a subscriber finds when it asks for the next item. -/
inductive Received
  | event (e : Event)
  | ended
  | nothing

/-- The next item of a queue, and the queue without it (`__anext__`). -/
def take : List Item → Received × List Item
  | [] => (.nothing, [])
  | .event e :: rest => (.event e, rest)
  | .finish :: rest => (.ended, rest)

/-- The next items of a queue up to the first that is no event, and the queue without them. -/
def drain : List Item → List Received × List Item
  | [] => ([.nothing], [])
  | .finish :: rest => ([.ended], rest)
  | .event e :: rest =>
    let (items, rest) := drain rest
    (.event e :: items, rest)

/-! ## All subscribers -/

/-- A bus with one more subscriber (`subscribe`). -/
def subscribe (bus : Bus) (subscriber : String) : Bus :=
  { bus with subscriptions := bus.subscriptions ++ [⟨subscriber, true, []⟩] }

/-- A bus after an event was published, with what has to be reported (`publish`). -/
def publish (bus : Bus) (e : Event) : Bus × List LogRecord :=
  let results := bus.subscriptions.map (deliver bus.limit e)
  ({ bus with subscriptions := results.map Prod.fst }, results.flatMap Prod.snd)

/-- A bus after a subscriber left, with what has to be reported (`unsubscribe`). -/
def unsubscribe (bus : Bus) (subscriber : String) : Bus × List LogRecord :=
  let results := bus.subscriptions.map fun s =>
    if s.subscriber = subscriber then close bus.limit s else (s, [])
  ({ bus with subscriptions := results.map Prod.fst }, results.flatMap Prod.snd)

/-- What waits for a subscriber, if it ever joined. -/
def queue? (bus : Bus) (subscriber : String) : Option (List Item) :=
  (bus.subscriptions.find? fun s => s.subscriber == subscriber).map (·.queue)

/-- A bus with another queue for a subscriber. -/
def setQueue (bus : Bus) (subscriber : String) (queue : List Item) : Bus :=
  { bus with
    subscriptions := bus.subscriptions.map fun s =>
      if s.subscriber = subscriber then { s with queue } else s }

/-- What a subscriber finds next, if it ever joined, and the bus after that. -/
def receive? (bus : Bus) (subscriber : String) : Option (Received × Bus) :=
  (bus.queue? subscriber).map fun queue =>
    let (item, rest) := take queue
    (item, bus.setQueue subscriber rest)

/-- What a subscriber finds up to the first item that is no event, and the bus after that. -/
def receiveAll? (bus : Bus) (subscriber : String) : Option (List Received × Bus) :=
  (bus.queue? subscriber).map fun queue =>
    let (items, rest) := drain queue
    (items, bus.setQueue subscriber rest)

theorem deliver_of_room {limit : Int} {s : Subscription} (e : Event) (ho : s.isOpen = true)
    (hr : isFull limit s.queue.length = false) :
    (deliver limit e s).1.queue = s.queue ++ [.event e] := by
  simp [deliver, ho, hr]

theorem deliver_of_full {limit : Int} {s : Subscription} (e : Event)
    (hf : isFull limit s.queue.length = true) : (deliver limit e s).1 = s := by
  unfold deliver
  rw [if_pos hf]
  split <;> rfl

end Bus

end AlbListener

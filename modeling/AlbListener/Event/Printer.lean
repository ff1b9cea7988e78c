import AlbListener.Event.Bus

/-!
# A printer

Events that are watched are printed by a task of its own, `stream`, a subscriber of their bus. It
joins before the first event is published. While the pass goes on it gets a turn now and then, in
which it takes what it finds; how many turns it gets is not its choice. Once nothing more will be
published it leaves, and then it goes on taking until it is told the end.

Results:
* `turn_of_ended`: a printer that has been told the end takes nothing more.
-/

namespace AlbListener

/-- A printer: its bus, what it has printed, what the bus had to report, and whether it has been
    told the end. -/
structure Printer where
  bus : Bus
  output : String
  records : List LogRecord
  ended : Bool

namespace Printer

/-- The name under which a printer joins its bus. -/
def name : String := "printer"

/-- A printer that has joined a bus of its own (`stream`). -/
def start : Printer := ⟨(Bus.empty Bus.defaultLimit).subscribe name, "", [], false⟩

/-- A printer after it got an item: every event is printed on a line of its own. -/
def get (p : Printer) : Bus.Received → Printer
  | .event e => { p with output := p.output ++ e.toLine ++ "\n" }
  | .ended => { p with ended := true }
  | .nothing => p

/-- A printer after a turn, in which it takes the next item, if there is one. -/
def turn (p : Printer) : Printer :=
  if p.ended then p else
    match p.bus.receive? name with
    | some (item, bus) => ({ p with bus } : Printer).get item
    | none => p

/-- A printer after some turns. -/
def takeTurns : Nat → Printer → Printer
  | 0, p => p
  | n + 1, p => takeTurns n p.turn

/-- A printer after an event was published on its bus. -/
def publish (p : Printer) (e : Event) : Printer :=
  let (bus, records) := p.bus.publish e
  { p with bus, records := p.records ++ records }

/-- A printer after some events were published, each followed by a number of turns. -/
def attend (turns : Nat → Nat) (p : Printer) : List Event → Printer
  | [] => p
  | e :: rest => attend (fun n => turns (n + 1)) (takeTurns (turns 0) (p.publish e)) rest

/-- A printer after it has left (`run`), and has got what still waited for it. -/
def leave (p : Printer) : Printer :=
  let (bus, records) := p.bus.unsubscribe name
  let p := { p with bus, records := p.records ++ records }
  match p.bus.receiveAll? name with
  | some (items, bus) => items.foldl get { p with bus }
  | none => p

/-- A printer that has attended to all events of a pass. -/
def ofEvents (turns : Nat → Nat) (events : List Event) : Printer :=
  (start.attend turns events).leave

theorem turn_of_ended {p : Printer} (h : p.ended = true) : p.turn = p := if_pos h

end Printer

end AlbListener

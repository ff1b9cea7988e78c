import AlbListener.Event.Basic
import AlbListener.Json.Access
import AlbListener.Proofs.Json.OneLine
import AlbListener.Proofs.Json.RoundTrip
import AlbListener.Text.Lines

/-!
# Lines of events

Events are shown one after the other, each on a line of its own. Whatever is in them, such a line is
printable ASCII, so nothing in it ends a line for any reader, and the lines of a text of events are
the lines of its events. What is read of each of them is the event again.

Results:
* `Event.Typed.read_toLine`: the object that is read of the line of an event.
* `Event.ofJson_members`, `Event.Typed.ofLine?_toLine`: the event that is read of it.
* `splitLines_linesOf`, `splitOn_linesOf`: the lines of a text of events.
* `ofLines?_linesOf`: the events that are read of it.
* `linesOf_lossless`: lines of events delimit themselves and lose nothing.
-/

namespace AlbListener

/-! ## One event -/

namespace Event

/-- An event whose port is an integer and whose other fields are texts; it may name no listener. -/
structure Typed (e : Event) : Prop where
  loadBalancerArn : ∃ s, e.loadBalancerArn = .str s
  port : ∃ n, e.port = .int n
  protocol : ∃ s, e.protocol = .str s
  listenerArn : ∃ s?, e.listenerArn = .ofText? s?
  message : ∃ s, e.message = .str s
  timestamp : ∃ s, e.timestamp = .str s

/-- The event that an object with its fields stands for. -/
def ofJson (value : Json) : Except Fault Event := do
  return {
    type := ← EventType.ofJson (← value.member "event_type")
    loadBalancerArn := ← value.member "load_balancer_arn"
    port := ← value.member "port"
    protocol := ← value.member "protocol"
    listenerArn := ← value.member "listener_arn"
    message := ← value.member "message"
    timestamp := ← value.member "timestamp" }

/-- The event on a line. -/
def ofLine? (line : String) : Option Event :=
  match Json.read line with
  | .ok value => (ofJson value).toOption
  | .error _ => none

variable {e : Event}

theorem distinct_members (e : Event) : Entries.Distinct e.members := by
  have hnames : Entries.names e.members = ["event_type", "load_balancer_arn", "port", "protocol",
    "listener_arn", "message", "timestamp"] := rfl
  rw [Entries.Distinct, hnames]
  decide

/-- The values under the names of an event pass what is hereditary. -/
theorem Typed.hereditary {P : Json → Prop} (hP : Json.Hereditary P) (h : e.Typed) :
    P (.obj e.members) := by
  obtain ⟨loadBalancerArn, hlb⟩ := h.loadBalancerArn
  obtain ⟨port, hport⟩ := h.port
  obtain ⟨protocol, hprotocol⟩ := h.protocol
  obtain ⟨listenerArn?, hlistener⟩ := h.listenerArn
  obtain ⟨message, hmessage⟩ := h.message
  obtain ⟨timestamp, htimestamp⟩ := h.timestamp
  have harn : P (.ofText? listenerArn?) := by
    cases listenerArn? with
    | none => exact hP.null
    | some arn => exact hP.str arn
  have hint : P (.int port) := hP.plain rfl fun _ h => by cases h
  refine hP.obj_iff.mpr ⟨e.distinct_members, ?_⟩
  rw [members, hlb, hport, hprotocol, hlistener, hmessage, htimestamp]
  simp only [List.forall_mem_cons]
  exact ⟨hP.str _, hP.str _, hint, hP.str _, harn, hP.str _, hP.str _, List.forall_mem_nil _⟩

/-- What is read of the line of an event is an object with its seven fields. -/
theorem Typed.read_toLine (h : e.Typed) : Json.read e.toLine = .ok (.obj e.members) := by
  obtain ⟨hd, hf⟩ := h.hereditary Json.hereditary_floatless
  exact Json.read_render hf hd

/-- An event is determined by its fields. -/
theorem ofJson_members (e : Event) : ofJson (.obj e.members) = .ok e := by
  have htype : (Json.obj e.members).member "event_type" = .ok (.str e.type.name) := rfl
  rw [ofJson, bind_of_eq_ok htype, bind_of_eq_ok (EventType.ofJson_name e.type)]
  rfl

theorem Typed.ofLine?_toLine (h : e.Typed) : ofLine? e.toLine = some e := by
  rw [ofLine?, h.read_toLine]
  dsimp only
  rw [ofJson_members]
  rfl

/-- What is read of an event: whatever was written of its fields, doubles are what their texts
    denote. -/
def reread (e : Event) : Event where
  type := e.type
  loadBalancerArn := e.loadBalancerArn.reread
  port := e.port.reread
  protocol := e.protocol.reread
  listenerArn := e.listenerArn.reread
  message := e.message.reread
  timestamp := e.timestamp.reread

/-- What is read of the line of any event is an object with its seven fields. -/
theorem read_toLine (e : Event) : Json.read e.toLine = .ok (.obj e.reread.members) := by
  have hmembers : Json.rereadMembers e.members = e.reread.members := by
    rw [Json.rereadMembers_eq_map]
    rfl
  rw [toLine, Json.read_render_eq, Json.reread, hmembers,
    Entries.ofPairs_of_distinct e.reread.distinct_members]

theorem ofLine?_toLine (e : Event) : ofLine? e.toLine = some e.reread := by
  rw [ofLine?, e.read_toLine]
  dsimp only
  rw [ofJson_members]
  rfl

theorem oneLine_toLine (e : Event) : Json.OneLine e.toLine.toList := Json.oneLine_render _

/-- Nothing in the line of an event ends a line. -/
theorem isLineEnd_of_mem_toLine {c : Char} (h : c ∈ e.toLine.toList) :
    Text.isLineEnd c = false := by
  obtain ⟨hlow, hhigh⟩ := e.oneLine_toLine c h
  simp only [Text.isLineEnd, Bool.or_eq_false_iff, Bool.and_eq_false_iff, decide_eq_false_iff_not,
    beq_eq_false_iff_ne]
  omega

end Event

/-! ## A text of events -/

/-- The lines of events. -/
def linesOf (events : List Event) : String :=
  String.join (events.map fun e => e.toLine ++ "\n")

/-- The events on the lines of a text. -/
def ofLines? (text : String) : Option (List Event) := (Text.splitLines text).mapM Event.ofLine?

/-- A text of events has the lines of its events, whatever is taken to end a line. -/
theorem splitLines_linesOf (events : List Event) :
    Text.splitLines (linesOf events) = events.map Event.toLine := by
  have hlines : linesOf events = String.join ((events.map Event.toLine).map (· ++ "\n")) := by
    rw [linesOf, List.map_map]
    rfl
  rw [hlines]
  refine Text.splitLines_join fun line hline c hc => ?_
  obtain ⟨e, -, rfl⟩ := List.mem_map.mp hline
  exact Event.isLineEnd_of_mem_toLine hc

/-- So it has if only a line feed is taken to end a line, with nothing behind the last one. -/
theorem splitOn_linesOf (events : List Event) :
    (linesOf events).toList.splitOn '\n' = (events.map fun e => e.toLine.toList) ++ [[]] := by
  have hend : "\n".toList = ['\n'] := rfl
  induction events with
  | nil => rfl
  | cons e rest ih =>
    have hline : '\n' ∉ e.toLine.toList := Json.lineEnd_not_mem_render _
    rw [linesOf, List.map_cons, String.join_cons, ← linesOf, String.toList_append,
      String.toList_append, hend, List.append_assoc, List.singleton_append,
      List.splitOn_append_cons_self_of_not_mem hline, ih]
    rfl

theorem ofLines?_linesOf {events : List Event} (h : ∀ e ∈ events, e.Typed) :
    ofLines? (linesOf events) = some events := by
  rw [ofLines?, splitLines_linesOf]
  induction events with
  | nil => rfl
  | cons e rest ih =>
    obtain ⟨he, hrest⟩ := List.forall_mem_cons.mp h
    rw [List.map_cons, List.mapM_cons, he.ofLine?_toLine, ih hrest]
    rfl

/-- Lines of events delimit themselves and lose nothing: each is printable ASCII without an end of
    a line, of which the seven fields of its event are read; the lines of a text of events are its
    lines, whether every end of a line counts or line feeds alone, and reading them one by one gives
    these events. -/
theorem linesOf_lossless {events : List Event} (h : ∀ e ∈ events, e.Typed) :
    (∀ e ∈ events, Json.OneLine e.toLine.toList ∧
      (∀ c ∈ e.toLine.toList, Text.isLineEnd c = false) ∧
      Json.read e.toLine = .ok (.obj e.members)) ∧
    Text.splitLines (linesOf events) = events.map Event.toLine ∧
    (linesOf events).toList.splitOn '\n' = (events.map fun e => e.toLine.toList) ++ [[]] ∧
    (Text.splitLines (linesOf events)).map Json.read = events.map (fun e => .ok (.obj e.members)) ∧
    ofLines? (linesOf events) = some events := by
  have hread : ∀ e ∈ events, Json.read e.toLine = .ok (.obj e.members) :=
    fun e hm => (h e hm).read_toLine
  refine ⟨fun e hm => ?_, splitLines_linesOf events, splitOn_linesOf events, ?_,
    ofLines?_linesOf h⟩
  · exact ⟨e.oneLine_toLine, fun c => Event.isLineEnd_of_mem_toLine, hread e hm⟩
  · rw [splitLines_linesOf, List.map_map]
    refine List.map_congr_left fun e hm => ?_
    rw [Function.comp_apply, hread e hm]

/-- A pass that failed with a message in which everything ends a line that can, between quotes and
    before a character that is written as two units; and one that did nothing. -/
def quotedEvents : List Event := [
  { type := .failed, loadBalancerArn := .str "lb", port := .int 443, protocol := .str "HTTPS",
    listenerArn := .null, message := .str "\"\r\n\x0b\x0c\x1c\x1d\x1e\u0085\u2028\u2029\" \\n 😀",
    timestamp := .str "2024-01-01T00:00:00.000000Z" },
  { type := .unchanged, loadBalancerArn := .str "", port := .int (-1), protocol := .str "HTTP",
    listenerArn := .str "arn", message := .str "\n", timestamp := .str "" }]

theorem linesOf_lossless_quoted :
    (∀ e ∈ quotedEvents, e.Typed) ∧
    Text.splitLines (linesOf quotedEvents) = quotedEvents.map Event.toLine ∧
    ofLines? (linesOf quotedEvents) = some quotedEvents := by
  have htyped : ∀ e ∈ quotedEvents, e.Typed := by
    refine List.forall_mem_cons.mpr ⟨⟨⟨_, rfl⟩, ⟨_, rfl⟩, ⟨_, rfl⟩, ⟨none, rfl⟩, ⟨_, rfl⟩,
      ⟨_, rfl⟩⟩, List.forall_mem_singleton.mpr ⟨⟨_, rfl⟩, ⟨_, rfl⟩, ⟨_, rfl⟩, ⟨some _, rfl⟩,
      ⟨_, rfl⟩, ⟨_, rfl⟩⟩⟩
  obtain ⟨-, hlines, -, -, hevents⟩ := linesOf_lossless htyped
  exact ⟨htyped, hlines, hevents⟩

end AlbListener

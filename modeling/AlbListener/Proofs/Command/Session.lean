import AlbListener.Command.Basic
import AlbListener.Proofs.Trace

/-!
# How sessions end

A session goes on with a value, or ends early with a reply; a run that stops ends it as well.
`Session.Calm` is a session that changes nothing and leaves no effect of one sort.

Results:
* `ending_bind_of_ok`, `ending_bind_of_reply`: how one session after another ends.
* `settle_error`, `stopped_ne_done`: what is made of a step that stops.
* `ending_reply`, `seen_reply`: the reply of a session, from how it ends.
* `Calm.bind`: sessions built from calm ones are calm.
* `ending_bind_early`: nothing follows a session that does not go on.
-/

namespace AlbListener

namespace Session

variable {σ α β γ : Type} {s s' : σ} {pick : Effect → Option γ}

/-- How a session ends, and the state it leaves. -/
def ending (session : Session σ α) (s : σ) : Except Stop (Except Reply α) × σ :=
  Run.ending (ExceptT.run session) s

/-- The effects of one sort that a session leaves. -/
def seen (pick : Effect → Option γ) (session : Session σ α) (s : σ) : List γ :=
  Run.seen pick (ExceptT.run session) s

section Bind

variable {first : Session σ α} (next : α → Session σ β)

theorem ending_bind_of_ok {value : α} (h : first.ending s = (.ok (.ok value), s')) :
    (first >>= next).ending s = (next value).ending s' :=
  Run.ending_bind_of_ok _ h

theorem ending_bind_of_reply {reply : Reply} (h : first.ending s = (.ok (.error reply), s')) :
    (first >>= next).ending s = (.ok (.error reply), s') :=
  Run.ending_bind_of_ok _ h

theorem ending_bind_of_error {reason : Stop} (h : first.ending s = (.error reason, s')) :
    (first >>= next).ending s = (.error reason, s') :=
  Run.ending_bind_of_error _ h

theorem seen_bind_of_ok {value : α} (h : first.ending s = (.ok (.ok value), s')) :
    (first >>= next).seen pick s = first.seen pick s ++ (next value).seen pick s' :=
  Run.seen_bind_of_ok _ h

theorem seen_bind_of_reply {reply : Reply} (h : first.ending s = (.ok (.error reply), s')) :
    (first >>= next).seen pick s = first.seen pick s :=
  (Run.seen_bind_of_ok _ h).trans (List.append_nil _)

theorem seen_bind_of_error {reason : Stop} (h : first.ending s = (.error reason, s')) :
    (first >>= next).seen pick s = first.seen pick s :=
  Run.seen_bind_of_error _ h

end Bind

theorem ending_bind_eq_ok {first : Session σ α} {next : α → Session σ β} {b : β}
    (h : (first >>= next).ending s = (.ok (.ok b), s')) :
    ∃ a s'', first.ending s = (.ok (.ok a), s'') ∧ (next a).ending s'' = (.ok (.ok b), s') := by
  rcases hend : first.ending s with ⟨reason | reply | a, s''⟩
  · rw [ending_bind_of_error _ hend] at h
    cases h
  · rw [ending_bind_of_reply _ hend] at h
    cases h
  · rw [ending_bind_of_ok _ hend] at h
    exact ⟨a, s'', rfl, h⟩

/-! ## Steps -/

theorem ending_lift {run : Run σ α} {value : α} (h : run.ending s = (.ok value, s')) :
    (liftM run : Session σ α).ending s = (.ok (.ok value), s') :=
  Run.ending_bind_of_ok _ h

theorem seen_lift (run : Run σ α) (s : σ) :
    (liftM run : Session σ α).seen pick s = run.seen pick s :=
  Run.seen_bind_of_hides fun _ => Run.hides_pure _

/-- How a command ends when one of its steps stops. -/
def stopped (words : Failure → Option String) : Stop → Ending
  | .failed failure =>
    match words failure with
    | some message => .refused message
    | none => .stopped (.failed failure)
  | reason => .stopped reason

theorem settle_error (words : Failure → Option String) (output : String) (reason : Stop) :
    (settle words output (.error reason) : Session σ α) = finish output (stopped words reason) := by
  cases reason with
  | cancelled => rfl
  | failed failure =>
    cases h : words failure with
    | none => simp only [settle, stopped, h]
    | some message => simp only [settle, stopped, h]

theorem eq_ok_of_ending_settle {words : Failure → Option String} {output : String}
    {result : Except Stop α} {value : α}
    (h : (settle words output result : Session σ α).ending s = (.ok (.ok value), s')) :
    result = .ok value := by
  cases result with
  | error reason =>
    rw [settle_error] at h
    cases h
  | ok given =>
    cases h
    rfl

theorem stopped_ne_done (words : Failure → Option String) (reason : Stop) :
    stopped words reason ≠ .done := by
  unfold stopped
  split
  · split
    · exact nofun
    · exact nofun
  · exact nofun

/-! ## Replies -/

/-- What is replied when a session ends. -/
def replyOf : Except Stop (Except Reply Reply) → Reply
  | .ok (.ok reply) => reply
  | .ok (.error reply) => reply
  | .error reason => ⟨"", .stopped reason⟩

theorem ending_reply (session : Session σ Reply) (s : σ) :
    session.reply.ending s = (.ok (replyOf (session.ending s).1), (session.ending s).2) := by
  rw [reply, Run.ending_bind_of_ok _ (Run.ending_attempt _ s)]
  show Run.ending _ (session.ending s).2 = _
  rcases hend : (session.ending s).1 with reason | early | reply
  · rw [show (Run.ending (ExceptT.run session) s).1 = _ from hend]
    rfl
  · rw [show (Run.ending (ExceptT.run session) s).1 = _ from hend]
    rfl
  · rw [show (Run.ending (ExceptT.run session) s).1 = _ from hend]
    rfl

theorem seen_reply (session : Session σ Reply) (s : σ) :
    session.reply.seen pick s = session.seen pick s := by
  refine Run.seen_bind_of_hides fun result => ?_
  rcases result with reason | early | reply
  · exact Run.hides_pure _
  · exact Run.hides_pure _
  · exact Run.hides_pure _

/-! ## Calm sessions -/

/-- A session that changes nothing, and leaves no effect of one sort. -/
def Calm (pick : Effect → Option γ) (session : Session σ α) : Prop :=
  Run.Calm pick (ExceptT.run session)

theorem calm_pure (value : α) : (pure value : Session σ α).Calm pick := Run.calm_pure _

theorem calm_finish (output : String) (ending : Ending) :
    (finish output ending : Session σ α).Calm pick := Run.calm_pure _

theorem calm_lift {run : Run σ α} (h : run.Calm pick) : (liftM run : Session σ α).Calm pick :=
  Run.Calm.bind h fun _ => Run.calm_pure _

theorem Calm.bind {first : Session σ α} {next : α → Session σ β} (h : first.Calm pick)
    (hn : ∀ value, (next value).Calm pick) : (first >>= next).Calm pick := by
  refine Run.Calm.bind h fun result => ?_
  cases result with
  | error reply => exact Run.calm_pure _
  | ok value => exact hn value

theorem calm_settle (words : Failure → Option String) (output : String)
    (result : Except Stop α) : (settle words output result : Session σ α).Calm pick := by
  cases result with
  | error reason =>
    rw [settle_error]
    exact calm_finish _ _
  | ok value => exact calm_pure value

theorem Calm.seen_eq {session : Session σ α} (h : session.Calm pick) (s : σ) :
    session.seen pick s = [] := h.hides s

theorem Calm.state_eq {session : Session σ α} (h : session.Calm pick) {s : σ}
    {result : Except Stop (Except Reply α)} (hend : session.ending s = (result, s')) : s' = s :=
  (congrArg Prod.snd hend).symm.trans (h.still s)

/-- A calm session that does not go on ends the same way, whatever would come next. -/
theorem ending_bind_early {first : Session σ α} (hcalm : first.Calm pick)
    (h : ∀ value, (first.ending s).1 ≠ .ok (.ok value)) :
    ∃ early : Except Stop (Except Reply β), ∀ next : α → Session σ β,
      (first >>= next).ending s = (early, s) ∧ (first >>= next).seen pick s = [] := by
  rcases hend : first.ending s with ⟨reason | reply | value, s'⟩
  · obtain rfl : s' = s := hcalm.state_eq hend
    exact ⟨.error reason, fun next => ⟨ending_bind_of_error _ hend,
      (seen_bind_of_error _ hend).trans (hcalm.seen_eq _)⟩⟩
  · obtain rfl : s' = s := hcalm.state_eq hend
    exact ⟨.ok (.error reply), fun next => ⟨ending_bind_of_reply _ hend,
      (seen_bind_of_reply _ hend).trans (hcalm.seen_eq _)⟩⟩
  · exact absurd (congrArg Prod.fst hend) (h value)

end Session

end AlbListener

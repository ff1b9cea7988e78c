import AlbListener.Effect
import AlbListener.Proofs.Except

/-!
# How runs end

What a run leaves behind for those that come after it is how it ended and the state it left;
its trace is for the operator. `Run.ending` is a run without its trace.

Results:
* `ending_bind_of_ok`, `ending_bind_of_error`: how one run after another ends.
* `ending_bind_eq_ok_iff`: when it ends with a value.
* `Still.bind`: runs that only read change nothing, one after the other.
-/

namespace AlbListener

namespace Run

variable {σ α β : Type}

/-- How a run ends, and the state it leaves. -/
def ending (run : Run σ α) (s : σ) : Except Stop α × σ := ((run s).result, (run s).state)

theorem ending_pure (value : α) (s : σ) : (Pure.pure value : Run σ α).ending s = (.ok value, s) :=
  rfl

theorem ending_log (level : LogLevel) (source : LogSource) (message : String) (s : σ) :
    (log level source message).ending s = (.ok (), s) := rfl

theorem ending_emit (effect : Effect) (s : σ) : (emit effect).ending s = (.ok (), s) := rfl

theorem ending_stop (reason : Stop) (s : σ) :
    (stop reason : Run σ α).ending s = (.error reason, s) := rfl

theorem ending_ofExcept (step : Except Failure α) (s : σ) :
    (ofExcept step).ending s = (step.mapError Stop.failed, s) := rfl

theorem ending_read (step : Except Fault α) (s : σ) :
    (read step).ending s = (step.mapError Stop.ofFault, s) := by
  cases step <;> rfl

theorem ending_attempt (run : Run σ α) (s : σ) :
    run.attempt.ending s = (.ok (run.ending s).1, (run.ending s).2) := rfl

/-- One run after another, the first of which ends with a value. -/
theorem bind_of_outcome {first : Run σ α} {s s' : σ} {value : α} {trace : List Effect}
    (h : first s = ⟨.ok value, s', trace⟩) (next : α → Run σ β) :
    (first >>= next) s =
      ⟨(next value s').result, (next value s').state, trace ++ (next value s').trace⟩ := by
  show Run.bind first next s = _
  simp only [Run.bind, h]

theorem ending_bind_of_ok {first : Run σ α} {s s' : σ} {value : α} (next : α → Run σ β)
    (h : first.ending s = (.ok value, s')) :
    (first >>= next).ending s = (next value).ending s' := by
  obtain ⟨hr, rfl⟩ := Prod.mk.inj h
  show (Run.bind first next).ending s = _
  simp only [ending, Run.bind, hr]

theorem ending_bind_of_error {first : Run σ α} {s s' : σ} {reason : Stop} (next : α → Run σ β)
    (h : first.ending s = (.error reason, s')) :
    (first >>= next).ending s = (.error reason, s') := by
  obtain ⟨hr, rfl⟩ := Prod.mk.inj h
  show (Run.bind first next).ending s = _
  simp only [ending, Run.bind, hr]

theorem ending_bind_eq_ok_iff {first : Run σ α} {next : α → Run σ β} {s s'' : σ} {b : β} :
    (first >>= next).ending s = (.ok b, s'') ↔
      ∃ a s', first.ending s = (.ok a, s') ∧ (next a).ending s' = (.ok b, s'') := by
  rcases hend : first.ending s with ⟨reason | a, s'⟩
  · rw [ending_bind_of_error _ hend]
    refine iff_of_false (fun h => by cases h) ?_
    rintro ⟨_, _, h, -⟩
    cases h
  · rw [ending_bind_of_ok _ hend]
    refine ⟨fun h => ⟨a, s', rfl, h⟩, ?_⟩
    rintro ⟨_, _, h, hnext⟩
    cases h
    exact hnext

theorem ending_read_eq_ok_iff {step : Except Fault α} {s s' : σ} {a : α} :
    (read step).ending s = (.ok a, s') ↔ step = .ok a ∧ s = s' := by
  rw [ending_read, Prod.mk.injEq, mapError_eq_ok_iff]

/-! ## Runs that only read -/

/-- A run that leaves the state as it is. -/
def Still (run : Run σ α) : Prop := ∀ s, (run s).state = s

theorem still_pure (value : α) : (Pure.pure value : Run σ α).Still := fun _ => rfl

theorem still_read (step : Except Fault α) : (read step : Run σ α).Still := fun _ => rfl

theorem Still.bind {first : Run σ α} {next : α → Run σ β} (h : first.Still)
    (hn : ∀ value, (next value).Still) : (first >>= next).Still := by
  intro s
  show ((first >>= next).ending s).2 = s
  rcases hend : first.ending s with ⟨reason | value, s'⟩
  · obtain rfl : s' = s := (congrArg Prod.snd hend).symm.trans (h s)
    rw [ending_bind_of_error _ hend]
  · obtain rfl : s' = s := (congrArg Prod.snd hend).symm.trans (h s)
    rw [ending_bind_of_ok _ hend]
    exact hn value _

end Run

end AlbListener

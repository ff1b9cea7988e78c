import AlbListener.Event.Basic
import AlbListener.Listener.Config
import AlbListener.Log
import AlbListener.Request.Basic

/-!
# Runs

A run takes the state of the world it acts on, ends with a value or stops, and leaves a trace
of what it did: records for the operator, calls, and published events. The trace and the state
are kept when a run stops, for what was done is done.

Results:
* `trace_bind_ok`, `bind_of_error`: a run that goes on adds to the trace, and one that has
  stopped does nothing more.
-/

namespace AlbListener

/-- The calls that a provider answers. -/
inductive Call
  | create
  | modify
  | describe
  deriving DecidableEq, Repr

/-- What a run does. -/
inductive Effect
  | log (entry : LogRecord)
  | createListener (loadBalancerArn : Json) (config : ListenerConfig)
  | modifyListener (listenerArn : Json) (config : ListenerConfig)
  | reconcileRules (listenerArn : Json) (ingress : Ingress) (annotations : Annotations)
      (groups : TargetGroups)
  | send (call : Call) (params : List (String × Json))
  | publish (event : Event)

/-- The event that an effect publishes. -/
def Effect.published : Effect → Option Event
  | .publish e => some e
  | _ => none

/-- The sort of call that an effect stands for, if it is one of a pass on its listener. -/
def Effect.call? : Effect → Option Call
  | .createListener .. => some .create
  | .modifyListener .. => some .modify
  | _ => none

/-- How a run ends, the state it leaves and what it did. -/
structure Outcome (σ α : Type) where
  result : Except Stop α
  state : σ
  trace : List Effect

/-- A run that acts on a state. -/
def Run (σ α : Type) : Type := σ → Outcome σ α

namespace Run

variable {σ α β : Type}

/-- The run that only gives a value. -/
def pure (value : α) : Run σ α := fun state => ⟨.ok value, state, []⟩

/-- One run after another that depends on its value. -/
def bind (first : Run σ α) (next : α → Run σ β) : Run σ β := fun state =>
  let outcome := first state
  match outcome.result with
  | .error stop => ⟨.error stop, outcome.state, outcome.trace⟩
  | .ok value =>
    let rest := next value outcome.state
    ⟨rest.result, rest.state, outcome.trace ++ rest.trace⟩

instance : Monad (Run σ) where
  pure := Run.pure
  bind := Run.bind

/-- The run that does one thing. -/
def emit (effect : Effect) : Run σ Unit := fun state => ⟨.ok (), state, [effect]⟩

/-- The run that records something. -/
def log (level : LogLevel) (source : LogSource) (message : String) : Run σ Unit :=
  emit (.log ⟨level, source, message⟩)

/-- The run that leaves some records. -/
def record (entries : List LogRecord) : Run σ Unit := fun state =>
  ⟨.ok (), state, entries.map .log⟩

/-- The run that stops. -/
def stop (reason : Stop) : Run σ α := fun state => ⟨.error reason, state, []⟩

/-- The run that fails. -/
def fail (failure : Failure) : Run σ α := stop (.failed failure)

/-- The run that gives the value of a step or fails as the step does. -/
def ofExcept (step : Except Failure α) : Run σ α := fun state =>
  ⟨step.mapError Stop.failed, state, []⟩

/-- The run that gives the value of a reading step. -/
def read (step : Except Fault α) : Run σ α := ofExcept (step.mapError Failure.fault)

/-- The run that gives how another run ends and always goes on. -/
def attempt (run : Run σ α) : Run σ (Except Stop α) := fun state =>
  let outcome := run state
  ⟨.ok outcome.result, outcome.state, outcome.trace⟩

/-- The run that gives how another run ends and what it did, and always goes on. -/
def observe (run : Run σ α) : Run σ (Except Stop α × List Effect) := fun state =>
  let outcome := run state
  ⟨.ok (outcome.result, outcome.trace), outcome.state, outcome.trace⟩

/-- A run that nothing waits for any more: it is done, and then cancelled whatever its value. -/
def cutOff (run : Run σ α) : Run σ α := fun state =>
  let outcome := run state
  ⟨.error .cancelled, outcome.state, outcome.trace⟩

theorem bind_of_error {first : Run σ α} {state : σ} {reason : Stop} (next : α → Run σ β)
    (h : (first state).result = .error reason) :
    Run.bind first next state = ⟨.error reason, (first state).state, (first state).trace⟩ := by
  simp [Run.bind, h]

theorem trace_bind_ok {first : Run σ α} {state : σ} {value : α} (next : α → Run σ β)
    (h : (first state).result = .ok value) :
    (Run.bind first next state).trace =
      (first state).trace ++ (next value (first state).state).trace := by
  simp [Run.bind, h]

end Run

end AlbListener

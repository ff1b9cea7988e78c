import AlbListener.Ingress.Annotations
import AlbListener.Proofs.Action.Shape

/-!
# Failures that are not reported

A mistake in the document of an action is reported as a problem of the annotation that holds it. What
escapes the report is a document that exceeds a limit of its reader, one at which reading breaks off,
and one whose settings are nested too deep (`Escapes`).

Results:
* `parseAction_cases`, `parseAction_of_escapes`: reading an action gives the action, is reported, or
  escapes.
* `escapes_iff`: which texts escape.
* `escapes_invalid_iff`: which texts escape as a value that is refused.
-/

namespace AlbListener

theorem Json.ReadError.asFailure_cases {e : Json.ReadError} (h : e.problem.isExcess = true) :
    (∃ limit count, e.problem = .tooManyDigits limit count ∧
      e.asFailure = .fault (.invalid (.tooManyDigits limit count))) ∨
    ∃ kind, e.problem = .tooDeep kind ∧ e.asFailure = .runtime e.message := by
  obtain ⟨problem, line, column, position⟩ := e
  cases problem with
  | tooManyDigits limit count => exact .inl ⟨limit, count, rfl, rfl⟩
  | tooDeep kind => exact .inr ⟨kind, rfl, rfl⟩
  | _ => cases h

namespace Annotations

variable {limits : Limits} {service : Json} {text : String} {f : Failure}

/-- How the document of an action fails without a report: it exceeds a limit, reading it breaks off,
    or the settings that are read are nested too deep. -/
inductive Escapes (limits : Limits) (text : String) : Failure → Prop
  | excess {e : Json.ReadError} (h : Json.readWithin limits text = .error e)
      (hx : e.problem.isExcess = true) : Escapes limits text e.asFailure
  | shape {members : List (String × Json)} {fault : Fault}
      (h : Json.readWithin limits text = .ok (.obj members))
      (hf : Action.ofDocument (.obj members) = .error fault) (hi : fault.isInvalid = false) :
      Escapes limits text (.fault fault)
  | depth {members : List (String × Json)} {a : Action} {depth : ℕ}
      (h : Json.readWithin limits text = .ok (.obj members))
      (ha : Action.ofDocument (.obj members) = .ok a) (hs : limits.settings? = some depth)
      (hd : depth < a.depth) : Escapes limits text (.runtime "maximum recursion depth exceeded")

/-- The texts that hold no document of an action that is read or reported. -/
inductive Unresolvable (limits : Limits) (text : String) : Prop
  | excess {e : Json.ReadError} (h : Json.readWithin limits text = .error e)
      (hx : e.problem.isExcess = true)
  | misshapen {members : List (String × Json)}
      (h : Json.readWithin limits text = .ok (.obj members)) (hm : Action.Misshapen members)
  | deep {members : List (String × Json)} {a : Action} {depth : ℕ}
      (h : Json.readWithin limits text = .ok (.obj members))
      (ha : Action.ofDocument (.obj members) = .ok a) (hs : limits.settings? = some depth)
      (hd : depth < a.depth)

theorem escapes_iff : (∃ f, Escapes limits text f) ↔ Unresolvable limits text := by
  constructor
  · rintro ⟨_, h | ⟨h, hf, hi⟩ | ⟨h, ha, hs, hd⟩⟩
    · exact .excess h ‹_›
    · exact .misshapen h (Action.breaks_ofDocument_iff.mp ⟨_, hf, hi⟩)
    · exact .deep h ha hs hd
  · rintro (⟨h, hx⟩ | ⟨h, hm⟩ | ⟨h, ha, hs, hd⟩)
    · exact ⟨_, .excess h hx⟩
    · obtain ⟨fault, hf, hi⟩ := Action.breaks_ofDocument_iff.mpr hm
      exact ⟨_, .shape h hf hi⟩
    · exact ⟨_, .depth h ha hs hd⟩

/-- A text escapes as a value that is refused only if an integer in it has too many digits. -/
theorem escapes_invalid_iff {reason : Invalid} :
    Escapes limits text (.fault (.invalid reason)) ↔ ∃ e limit count,
      Json.readWithin limits text = .error e ∧ e.problem = .tooManyDigits limit count ∧
        reason = .tooManyDigits limit count := by
  constructor
  · intro h
    generalize hf : Failure.fault (.invalid reason) = f at h
    cases h with
    | @excess e h hx =>
      rcases e.asFailure_cases hx with ⟨limit, count, hp, hfailure⟩ | ⟨_, _, hfailure⟩
      · cases hf.trans hfailure
        exact ⟨e, limit, count, h, hp, rfl⟩
      · cases hf.trans hfailure
    | shape h hfault hi =>
      cases hf
      cases hi
    | depth => cases hf
  · rintro ⟨e, limit, count, h, hp, rfl⟩
    have hx : e.problem.isExcess = true := by rw [hp]; rfl
    have hfailure : e.asFailure = .fault (.invalid (.tooManyDigits limit count)) := by
      rw [Json.ReadError.asFailure, hp]
    exact hfailure ▸ .excess h hx

/-- What escapes is a fault of the document, or that its reader cannot go on. -/
theorem Escapes.fault_or_runtime (h : Escapes limits text f) :
    (∃ reason, f = .fault reason) ∨ ∃ message, f = .runtime message := by
  cases h with
  | @excess e h hx =>
    rcases e.asFailure_cases hx with ⟨_, _, _, hfailure⟩ | ⟨_, _, hfailure⟩
    · exact .inl ⟨_, hfailure⟩
    · exact .inr ⟨_, hfailure⟩
  | shape => exact .inl ⟨_, rfl⟩
  | depth => exact .inr ⟨_, rfl⟩

/-- It is no report. -/
theorem Escapes.ne_reconcile (h : Escapes limits text f) (reason : Reason) (stage : Json) :
    f ≠ .reconcile reason stage := by
  rintro rfl
  rcases h.fault_or_runtime with ⟨_, ⟨⟩⟩ | ⟨_, ⟨⟩⟩

theorem parseAction_of_escapes (h : Escapes limits text f) (service : Json) :
    parseAction service text limits = .error f := by
  cases h with
  | excess h hx =>
    rw [parseAction, h]
    exact congrArg Except.error (if_pos hx)
  | @shape _ fault h hf hi =>
    simp only [parseAction, h, hf]
    cases fault with
    | invalid => cases hi
    | _ => rfl
  | depth h ha hs hd =>
    simp only [parseAction, h, ha, checkDepth, hs, Option.any_some, decide_eq_true hd, if_true]

/-- Reading the document of an action gives the action, is reported, or escapes. -/
theorem parseAction_cases (service : Json) (text : String) (limits : Limits) :
    (∃ a, parseAction service text limits = .ok a) ∨
    (∃ problem, parseAction service text limits = .error (failure service problem)) ∨
    ∃ f, Escapes limits text f := by
  cases hread : Json.readWithin limits text with
  | error e =>
    by_cases hx : e.problem.isExcess = true
    · exact .inr (.inr ⟨_, .excess hread hx⟩)
    · refine .inr (.inl ⟨.unreadable e, ?_⟩)
      rw [parseAction, hread]
      exact congrArg Except.error (if_neg hx)
  | ok document =>
    cases document with
    | obj members =>
      rcases ha : Action.ofDocument (.obj members) with fault | a
      · cases fault with
        | invalid reason =>
          exact .inr (.inl ⟨.invalid reason, by simp only [parseAction, hread, ha]⟩)
        | _ => exact .inr (.inr ⟨_, .shape hread ha rfl⟩)
      · by_cases hd : ∀ depth ∈ limits.settings?, a.depth ≤ depth
        · refine .inl ⟨a, ?_⟩
          simp only [parseAction, hread, ha]
          exact checkDepth_eq_ok_iff.mpr ⟨rfl, hd⟩
        · obtain ⟨depth, hd⟩ := not_forall.mp hd
          obtain ⟨hs, hd⟩ := Classical.not_imp.mp hd
          exact .inr (.inr ⟨_, .depth hread ha hs (Nat.lt_of_not_le hd)⟩)
    | _ => exact .inr (.inl ⟨.notObject, by simp only [parseAction, hread]⟩)

end Annotations

end AlbListener

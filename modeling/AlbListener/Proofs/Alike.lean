import Mathlib.Data.List.Forall2
import AlbListener.Proofs.Except

/-!
# Steps that end alike

Two runs of the same steps on different data are compared step by step: they end alike if both give
values that are related, or both fail with failures that are. What goes on with related values ends
alike again.

Results:
* `Alike.bind`, `Alike.bind_same`, `Alike.map`: one step after another.
* `Alike.mapM`, `Alike.forM`: one step for each element of a list.
-/

namespace AlbListener

variable {ε ε' α α' β β' : Type}

/-- Steps of which both give values that are related, or both fail with failures that are. -/
inductive Alike (E : ε → ε' → Prop) (R : α → α' → Prop) : Except ε α → Except ε' α' → Prop
  | ok {a : α} {a' : α'} (h : R a a') : Alike E R (.ok a) (.ok a')
  | error {e : ε} {e' : ε'} (h : E e e') : Alike E R (.error e) (.error e')

/-! ## Related lists -/

section Related

variable {R : α → α' → Prop} {values : List α} {values' : List α'}

theorem map_eq_of_related (h : List.Forall₂ R values values') {f : α → β} {f' : α' → β}
    (hf : ∀ a a', R a a' → f a = f' a') : values.map f = values'.map f' := by
  induction h with
  | nil => rfl
  | cons ha _ ih => rw [List.map_cons, List.map_cons, hf _ _ ha, ih]

theorem mapM_eq_of_related (h : List.Forall₂ R values values') {step : α → Except ε β}
    {step' : α' → Except ε β} (hs : ∀ a a', R a a' → step a = step' a') :
    values.mapM step = values'.mapM step' := by
  induction h with
  | nil => rfl
  | cons ha _ ih => rw [List.mapM_cons, List.mapM_cons, hs _ _ ha, ih]

end Related

/-! ## Steps -/

namespace Alike

variable {E : ε → ε' → Prop} {R : α → α' → Prop} {S : β → β' → Prop}

theorem mono {E' : ε → ε' → Prop} {R' : α → α' → Prop} {step : Except ε α}
    {step' : Except ε' α'} (h : Alike E R step step') (hE : ∀ e e', E e e' → E' e e')
    (hR : ∀ a a', R a a' → R' a a') : Alike E' R' step step' := by
  cases h with
  | ok h => exact .ok (hR _ _ h)
  | error h => exact .error (hE _ _ h)

theorem bind {step : Except ε α} {step' : Except ε' α'} {next : α → Except ε β}
    {next' : α' → Except ε' β'} (h : Alike E R step step')
    (hn : ∀ a a', R a a' → Alike E S (next a) (next' a')) :
    Alike E S (step >>= next) (step' >>= next') := by
  cases h with
  | ok h => exact hn _ _ h
  | error h => exact .error h

theorem map {step : Except ε α} {step' : Except ε' α'} {f : α → β} {f' : α' → β'}
    (h : Alike E R step step') (hf : ∀ a a', R a a' → S (f a) (f' a')) :
    Alike E S (f <$> step) (f' <$> step') := by
  cases h with
  | ok h => exact .ok (hf _ _ h)
  | error h => exact .error h

theorem mapError {step : Except ε α} {step' : Except ε α'} (h : Alike Eq R step step')
    {δ : Type} (wrap : ε → δ) : Alike Eq R (step.mapError wrap) (step'.mapError wrap) := by
  cases h with
  | ok h => exact .ok h
  | error h => exact .error (congrArg wrap h)

/-- What holds of the value that is given can be kept with what relates it to the other one. -/
theorem and_left {P : α → Prop} {step : Except ε α} {step' : Except ε' α'}
    (h : Alike E R step step') (hp : ∀ a, step = .ok a → P a) :
    Alike E (fun a a' => R a a' ∧ P a) step step' := by
  cases h with
  | ok h => exact .ok ⟨h, hp _ rfl⟩
  | error h => exact .error h

theorem mapM {step : α → Except ε β} {step' : α' → Except ε' β'} {values : List α}
    {values' : List α'} (h : List.Forall₂ R values values')
    (hs : ∀ a a', R a a' → Alike E S (step a) (step' a')) :
    Alike E (List.Forall₂ S) (values.mapM step) (values'.mapM step') := by
  induction h with
  | nil => exact .ok .nil
  | cons ha _ ih =>
    rw [List.mapM_cons, List.mapM_cons]
    exact (hs _ _ ha).bind fun b b' hb => ih.bind fun bs bs' hbs => .ok (.cons hb hbs)

theorem forM {step : α → Except ε Unit} {step' : α' → Except ε' Unit} {values : List α}
    {values' : List α'} (h : List.Forall₂ R values values')
    (hs : ∀ a a', R a a' → Alike E (fun _ _ => True) (step a) (step' a')) :
    Alike E (fun _ _ => True) (values.forM step) (values'.forM step') := by
  induction h with
  | nil => exact .ok trivial
  | cons ha _ ih => exact (hs _ _ ha).bind fun _ _ _ => ih

/-- Steps behind the same one. -/
theorem bind_same (step : Except ε α) {next : α → Except ε β} {next' : α → Except ε β'}
    (hn : ∀ a, Alike Eq S (next a) (next' a)) : Alike Eq S (step >>= next) (step >>= next') := by
  cases step with
  | ok a => exact hn a
  | error e => exact .error rfl

/-- The same step ends alike. -/
theorem refl {E : ε → ε → Prop} {R : α → α → Prop} (hE : ∀ e, E e e) (hR : ∀ a, R a a)
    (step : Except ε α) : Alike E R step step := by
  cases step with
  | ok a => exact .ok (hR a)
  | error e => exact .error (hE e)

theorem same (step : Except ε α) : Alike Eq Eq step step := .refl (fun _ => rfl) (fun _ => rfl) step

/-- Steps that end alike with equal values and failures are equal. -/
theorem eq {step step' : Except ε α} (h : Alike Eq Eq step step') : step = step' := by
  cases h with
  | ok h => rw [h]
  | error h => rw [h]

/-- What is read off related values alike is read off the two steps alike. -/
theorem map_eq {step : Except ε α} {step' : Except ε α'} (h : Alike Eq R step step')
    {f : α → β} {f' : α' → β} (hf : ∀ a a', R a a' → f a = f' a') :
    step.map f = step'.map f' := by
  cases h with
  | ok h => exact congrArg Except.ok (hf _ _ h)
  | error h => exact congrArg Except.error h

/-- A step that ends as one that gives a value gives a value. -/
theorem exists_ok {step : Except ε α} {step' : Except ε' α'} {a : α} (h : Alike E R step step')
    (hs : step = .ok a) : ∃ a', step' = .ok a' ∧ R a a' := by
  cases h with
  | ok h =>
    cases hs
    exact ⟨_, rfl, h⟩
  | error h => cases hs

end Alike

end AlbListener

import Mathlib.Data.List.Forall2

/-!
# Steps that may fail

How a sequence of steps ends, from how each of its steps does.

Results:
* `bind_eq_ok_iff`, `bind_eq_error_iff`: one step after another.
* `map_eq_ok_iff`, `mapError_eq_ok_iff`, `mapError_eq_error_iff`: a step whose value or failure
  is changed.
* `mapError_map`, `mapError_map_eq_ok_iff`, `mapError_map_eq_error_iff`: a step of which both are.
* `forM_eq_ok_iff`, `mapM_eq_ok_iff`, `exists_mapM_iff`, `mapM_eq_ok_of_forall`: one step for each
  element of a list.
-/

namespace AlbListener

variable {ε ε' α β : Type}

theorem bind_eq_ok_iff {step : Except ε α} {next : α → Except ε β} {b : β} :
    step >>= next = .ok b ↔ ∃ a, step = .ok a ∧ next a = .ok b := by
  cases step <;> simp [bind, Except.bind]

theorem bind_eq_error_iff {step : Except ε α} {next : α → Except ε β} {e : ε} :
    step >>= next = .error e ↔ step = .error e ∨ ∃ a, step = .ok a ∧ next a = .error e := by
  cases step <;> simp [bind, Except.bind]

theorem bind_of_eq_ok {step : Except ε α} {a : α} (h : step = .ok a) (next : α → Except ε β) :
    step >>= next = next a := by
  rw [h]; rfl

theorem bind_of_eq_error {step : Except ε α} {e : ε} (h : step = .error e)
    (next : α → Except ε β) : step >>= next = .error e := by
  rw [h]; rfl

theorem map_eq_ok_iff {f : α → β} {step : Except ε α} {b : β} :
    f <$> step = .ok b ↔ ∃ a, step = .ok a ∧ f a = b := by
  cases step <;> simp [Functor.map, Except.map]

theorem mapError_eq_ok_iff {wrap : ε → ε'} {step : Except ε α} {a : α} :
    step.mapError wrap = .ok a ↔ step = .ok a := by
  cases step with
  | ok value =>
    constructor
    · rintro ⟨⟩
      rfl
    · rintro ⟨⟩
      rfl
  | error e =>
    constructor
    · rintro ⟨⟩
    · rintro ⟨⟩

theorem mapError_eq_error_iff {wrap : ε → ε'} {step : Except ε α} {e' : ε'} :
    step.mapError wrap = .error e' ↔ ∃ e, step = .error e ∧ wrap e = e' := by
  cases step with
  | ok value => exact iff_of_false (by rintro ⟨⟩) (by rintro ⟨_, ⟨⟩, _⟩)
  | error e =>
    constructor
    · rintro ⟨⟩
      exact ⟨e, rfl, rfl⟩
    · rintro ⟨_, ⟨⟩, rfl⟩
      rfl

/-- The value and the failure of a step are changed in either order. -/
theorem mapError_map {wrap : ε → ε'} (f : α → β) (step : Except ε α) :
    (step.mapError wrap).map f = (step.map f).mapError wrap := by
  cases step <;> rfl

/-- A step whose failure is changed, and whose value then is, fails with a changed failure. -/
theorem mapError_map_eq_error_iff {wrap : ε → ε'} {f : α → β} {step : Except ε α} {e' : ε'} :
    (step.mapError wrap).map f = .error e' ↔ ∃ e, step = .error e ∧ wrap e = e' := by
  cases step with
  | ok value => exact iff_of_false (by rintro ⟨⟩) (by rintro ⟨_, ⟨⟩, _⟩)
  | error e =>
    constructor
    · rintro ⟨⟩
      exact ⟨e, rfl, rfl⟩
    · rintro ⟨_, ⟨⟩, rfl⟩
      rfl

theorem forM_eq_ok_iff {check : α → Except ε Unit} {values : List α} :
    values.forM check = .ok () ↔ ∀ value ∈ values, check value = .ok () := by
  induction values with
  | nil => simp [pure, Except.pure]
  | cons value rest ih =>
    show (check value >>= fun _ => rest.forM check) = .ok () ↔ _
    rw [bind_eq_ok_iff, List.forall_mem_cons, ← ih]
    exact ⟨fun ⟨_, h, hrest⟩ => ⟨h, hrest⟩, fun ⟨h, hrest⟩ => ⟨(), h, hrest⟩⟩

/-- A list of steps gives what each of its steps gives. -/
theorem mapM_eq_ok_iff {step : α → Except ε β} {values : List α} {results : List β} :
    values.mapM step = .ok results ↔
      List.Forall₂ (fun value b => step value = .ok b) values results := by
  induction values generalizing results with
  | nil =>
    rw [List.forall₂_nil_left_iff]
    exact ⟨fun h => (Except.ok.inj h).symm, fun h => congrArg Except.ok h.symm⟩
  | cons value rest ih =>
    rw [List.mapM_cons, List.forall₂_cons_left_iff]
    constructor
    · intro h
      obtain ⟨b, hb, h⟩ := bind_eq_ok_iff.mp h
      obtain ⟨bs, hbs, h⟩ := bind_eq_ok_iff.mp h
      exact ⟨b, bs, hb, ih.mp hbs, (Except.ok.inj h).symm⟩
    · rintro ⟨b, bs, hb, hbs, rfl⟩
      rw [bind_of_eq_ok hb, bind_of_eq_ok (ih.mpr hbs)]
      rfl

theorem exists_mapM_iff {step : α → Except ε β} {values : List α} :
    (∃ results, values.mapM step = .ok results) ↔ ∀ value ∈ values, ∃ b, step value = .ok b := by
  induction values with
  | nil => exact iff_of_true ⟨[], rfl⟩ fun _ h => by cases h
  | cons value rest ih =>
    simp only [mapM_eq_ok_iff] at ih ⊢
    rw [List.forall_mem_cons, ← ih]
    constructor
    · rintro ⟨_, _ | ⟨hb, hbs⟩⟩
      exact ⟨⟨_, hb⟩, _, hbs⟩
    · rintro ⟨⟨b, hb⟩, bs, hbs⟩
      exact ⟨b :: bs, .cons hb hbs⟩

theorem length_eq_of_mapM {step : α → Except ε β} {values : List α} {results : List β}
    (h : values.mapM step = .ok results) : results.length = values.length :=
  (mapM_eq_ok_iff.mp h).length_eq.symm

/-- What comes out of a list is what comes out of its elements. -/
theorem mem_iff_of_mapM {step : α → Except ε β} {values : List α} {results : List β}
    (h : values.mapM step = .ok results) {b : β} :
    b ∈ results ↔ .ok b ∈ values.map step := by
  have hmap : values.map step = results.map Except.ok := by
    rw [← List.forall₂_eq_eq_eq, List.forall₂_map_left_iff, List.forall₂_map_right_iff]
    exact mapM_eq_ok_iff.mp h
  rw [hmap, List.mem_map_of_injective fun _ _ => Except.ok.inj]

theorem mapM_eq_ok_of_forall {step : α → Except ε β} {f : β → α} {values : List β}
    (h : ∀ value ∈ values, step (f value) = .ok value) :
    (values.map f).mapM step = .ok values := by
  rw [mapM_eq_ok_iff, List.forall₂_map_left_iff]
  exact List.forall₂_same.mpr h

end AlbListener

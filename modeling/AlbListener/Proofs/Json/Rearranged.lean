import AlbListener.Proofs.Json.Reordered

/-!
# Values up to the order of members

`Rearranged` says what it means that two values are the same up to the order in which objects have
their members, at every depth: it looks a member up by its name and never at its place. Booleans and
numbers are the same only if they are written alike, so `true` and `1` are different values.
Sorting the members of two values, and writing them, tells apart exactly the values that are not
rearranged.

Results:
* `reordered_iff`: values become the same by sorting exactly if they are rearranged.
* `render_sorted_eq_iff`: the text of a value with sorted members is canonical.
-/

namespace AlbListener.Json

open Entries (get?)

variable {a b : Json}

/-- Values that are the same up to the order of members: the same value without parts, arrays of
    such values element by element, or objects with such values under the same names. -/
inductive Rearranged : Json → Json → Prop
  | plain {value : Json} (h : value.isCompound = false) : Rearranged value value
  | arr {xs ys : List Json} (h : List.Forall₂ Rearranged xs ys) : Rearranged (.arr xs) (.arr ys)
  | obj {xs ys : List (String × Json)}
      (h : ∀ name, Option.Rel Rearranged (get? xs name) (get? ys name)) :
      Rearranged (.obj xs) (.obj ys)

theorem Rearranged.eq_of_plain (h : Rearranged a b) (hp : a.isCompound = false) : a = b := by
  cases h with
  | plain _ => rfl
  | arr _ | obj _ => cases hp

theorem rearranged_obj_iff {xs ys : List (String × Json)} :
    Rearranged (.obj xs) (.obj ys) ↔
      ∀ name, Option.Rel Rearranged (get? xs name) (get? ys name) := by
  refine ⟨fun h => ?_, .obj⟩
  cases h with
  | plain hp => cases hp
  | obj h => exact h

/-! ## Rearranged and reordered values -/

/-- What relates two optional values can be replaced by what follows from it for them. -/
theorem rel_of_forall {α β : Type} {R S : α → β → Prop} {x : Option α} {y : Option β}
    (h : Option.Rel R x y) (hi : ∀ a b, x = some a → y = some b → R a b → S a b) :
    Option.Rel S x y := by
  cases h with
  | none => exact .none
  | some h => exact .some (hi _ _ rfl rfl h)

/-- What relates the elements of two lists can be replaced by what follows from it for them. -/
theorem forall₂_of_forall {α β : Type} {R S : α → β → Prop} {xs : List α} {ys : List β}
    (h : List.Forall₂ R xs ys) (hi : ∀ x ∈ xs, ∀ y ∈ ys, R x y → S x y) : List.Forall₂ S xs ys := by
  induction h with
  | nil => exact .nil
  | cons hxy _ ih =>
    exact .cons (hi _ List.mem_cons_self _ List.mem_cons_self hxy)
      (ih fun x hx y hy => hi x (List.mem_cons_of_mem _ hx) y (List.mem_cons_of_mem _ hy))

theorem rearranged_of_reordered (h : Reordered a b) : Rearranged a b := by
  induction a using parts_induction generalizing b with
  | plain value hp =>
    obtain rfl := h.eq_of_plain hp
    exact .plain hp
  | arr elements ih =>
    obtain ⟨others, rfl, hall⟩ := h.exists_arr
    exact .arr (forall₂_of_forall hall fun x hx _ _ hxy => ih x hx hxy)
  | obj members ih =>
    obtain ⟨others, rfl⟩ := h.exists_obj
    refine .obj fun name => ?_
    exact rel_of_forall ((reordered_obj_iff.mp h).2.2 name) fun x _ hx _ hxy =>
      ih _ (Entries.mem_of_get? hx) hxy

theorem reordered_of_rearranged (ha : a.Distinct) (hb : b.Distinct) (h : Rearranged a b) :
    Reordered a b := by
  induction a using parts_induction generalizing b with
  | plain value hp =>
    obtain rfl := h.eq_of_plain hp
    exact .refl ha
  | arr elements ih =>
    cases h with
    | plain hp => cases hp
    | arr hall =>
      rw [distinct_arr_iff] at ha hb
      exact reordered_arr_iff.mpr
        (forall₂_of_forall hall fun x hx y hy hxy => ih x hx (ha x hx) (hb y hy) hxy)
  | obj members ih =>
    cases h with
    | plain hp => cases hp
    | obj hall =>
      refine reordered_obj_iff.mpr
        ⟨(distinct_obj_iff.mp ha).1, (distinct_obj_iff.mp hb).1, fun name => ?_⟩
      exact rel_of_forall (hall name) fun x y hx hy hxy =>
        ih _ (Entries.mem_of_get? hx) (get?_distinct ha hx) (get?_distinct hb hy) hxy

/-- Sorting makes two values the same exactly if they are rearranged. -/
theorem reordered_iff : Reordered a b ↔ a.Distinct ∧ b.Distinct ∧ Rearranged a b :=
  ⟨fun h => ⟨h.left, h.right, rearranged_of_reordered h⟩,
    fun ⟨ha, hb, h⟩ => reordered_of_rearranged ha hb h⟩

/-! ## Canonical texts -/

/-- Written values with sorted members are read back, so they are the same only if the values become
    the same by sorting. -/
theorem reordered_iff_render (ha : a.Distinct) (hb : b.Distinct) (hfa : a.Floatless)
    (hfb : b.Floatless) : Reordered a b ↔ a.sorted.render = b.sorted.render := by
  refine ⟨fun h => by rw [h.sorted], fun h => ⟨ha, hb, ?_⟩⟩
  have hread := read_render (sorted_floatless hfa) (sorted_distinct ha)
  rw [h, read_render (sorted_floatless hfb) (sorted_distinct hb)] at hread
  exact (Except.ok.inj hread).symm

/-- The text of a value whose members are sorted is the same exactly for values that are the same up
    to the order of members. -/
theorem render_sorted_eq_iff (ha : a.Distinct) (hb : b.Distinct) (hfa : a.Floatless)
    (hfb : b.Floatless) : a.sorted.render = b.sorted.render ↔ Rearranged a b := by
  rw [← reordered_iff_render ha hb hfa hfb, reordered_iff]
  exact ⟨fun h => h.2.2, fun h => ⟨ha, hb, h⟩⟩

end AlbListener.Json

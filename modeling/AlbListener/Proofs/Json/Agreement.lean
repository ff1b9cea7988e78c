import Mathlib.Data.List.Perm.Subperm
import AlbListener.Proofs.Json.Rearranged

/-!
# Values that are equal

`Agrees` says when two values are equal: numbers by what they amount to, however they are written,
arrays element by element, and objects as mappings, so that a member is looked up by its name and
never at its place. Values with distinct names are the same exactly if they are equal, so on them
sameness is an equivalence.

Results:
* `same_iff_agrees`: when two values are the same.
* `Agrees.refl`, `Agrees.symm`, `Agrees.trans`: an equivalence.
* `Agrees.of_rearranged`: values that differ only in the order of members are equal.
-/

namespace AlbListener.Json

open Entries (get?)

variable {a b c : Json}

/-- Values that are equal. -/
inductive Agrees : Json → Json → Prop
  | null : Agrees .null .null
  | str (s : String) : Agrees (.str s) (.str s)
  | number {a b : Json} {x : Number} (ha : a.number? = some x) (hb : b.number? = some x) : Agrees a b
  | arr {xs ys : List Json} (h : List.Forall₂ Agrees xs ys) : Agrees (.arr xs) (.arr ys)
  | obj {xs ys : List (String × Json)}
      (h : ∀ name, Option.Rel Agrees (get? xs name) (get? ys name)) : Agrees (.obj xs) (.obj ys)

/-! ## Equal values by what they are -/

theorem agrees_arr_iff {xs ys : List Json} :
    Agrees (.arr xs) (.arr ys) ↔ List.Forall₂ Agrees xs ys := by
  refine ⟨fun h => ?_, .arr⟩
  cases h with
  | number ha => cases ha
  | arr h => exact h

theorem agrees_obj_iff {xs ys : List (String × Json)} :
    Agrees (.obj xs) (.obj ys) ↔ ∀ name, Option.Rel Agrees (get? xs name) (get? ys name) := by
  refine ⟨fun h => ?_, .obj⟩
  cases h with
  | number ha => cases ha
  | obj h => exact h

theorem agrees_iff_sameScalar (h : a.isCompound = false) :
    Agrees a b ↔ sameScalar a b = true := by
  constructor
  · intro hab
    cases hab with
    | null => rfl
    | str s => exact beq_self_eq_true s
    | @number _ _ x ha hb =>
      cases a <;> cases b <;> simp_all [sameScalar, number?]
    | arr _ | obj _ => cases h
  · intro hab
    cases a with
    | null => cases b <;> first | exact .null | cases hab
    | str s =>
      cases b with
      | str t =>
        obtain rfl : s = t := beq_iff_eq.mp hab
        exact .str s
      | _ => cases hab
    | arr _ | obj _ => cases h
    | _ =>
      cases b with
      | bool _ | int _ | float _ => exact .number rfl (congrArg some (beq_iff_eq.mp hab).symm)
      | _ => cases hab

/-! ## Sameness -/

theorem sameAll_eq_true_iff {xs ys : List Json} :
    sameAll xs ys = true ↔ List.Forall₂ (fun x y => x.same y = true) xs ys := by
  induction xs generalizing ys with
  | nil => cases ys <;> simp [sameAll]
  | cons x xs ih =>
    cases ys with
    | nil => simp [sameAll]
    | cons y ys => rw [sameAll, Bool.and_eq_true, ih, List.forall₂_cons]

theorem exists_of_rel {R : Json → Json → Prop} {x : Json} {found : Option Json}
    (h : Option.Rel R (some x) found) : ∃ y, found = some y ∧ R x y := by
  cases h with
  | some h => exact ⟨_, rfl, h⟩

/-- Objects with distinct names are the same if the same stands under every name. -/
theorem same_obj_iff {xs ys : List (String × Json)} (hx : Entries.Distinct xs)
    (hy : Entries.Distinct ys) : (obj xs).same (.obj ys) = true ↔
      ∀ name, Option.Rel (fun x y => x.same y = true) (get? xs name) (get? ys name) := by
  rw [same, Bool.and_eq_true, beq_iff_eq, sameMembers_eq_true_iff]
  constructor
  · rintro ⟨hlength, hall⟩ name
    -- as many names, all of which occur on the other side, are the same names
    have hsub : Entries.names xs ⊆ Entries.names ys := by
      intro name hm
      obtain ⟨x, hm⟩ := Entries.mem_names_iff.mp hm
      obtain ⟨y, hy, -⟩ := hall _ hm
      exact Entries.mem_names_of_mem (Entries.mem_of_get? hy)
    have hnames : (Entries.names xs).Perm (Entries.names ys) := by
      refine (List.Nodup.subperm hx hsub).perm_of_length_le (Nat.le_of_eq ?_)
      rw [Entries.names, Entries.names, List.length_map, List.length_map, hlength]
    cases hfound : get? xs name with
    | none =>
      rw [Entries.get?_eq_none_iff, hnames.mem_iff, ← Entries.get?_eq_none_iff] at hfound
      rw [hfound]
      exact .none
    | some x =>
      obtain ⟨y, hy, hxy⟩ := hall _ (Entries.mem_of_get? hfound)
      rw [hy]
      exact .some hxy
  · intro h
    have hnames : (Entries.names xs).Perm (Entries.names ys) := by
      refine (List.perm_ext_iff_of_nodup hx hy).mpr fun name => ?_
      rw [← not_iff_not, ← Entries.get?_eq_none_iff, ← Entries.get?_eq_none_iff]
      have hname := h name
      generalize get? xs name = x, get? ys name = y at hname
      cases hname <;> simp
    refine ⟨by simpa [Entries.names] using hnames.length_eq, fun member hm => ?_⟩
    have hname := h member.1
    rw [Entries.get?_of_mem hx hm] at hname
    exact exists_of_rel hname

/-- Values with distinct names are the same exactly if they are equal. -/
theorem same_iff_agrees (ha : a.Distinct) (hb : b.Distinct) : a.same b = true ↔ Agrees a b := by
  induction a using parts_induction generalizing b with
  | plain a hp => rw [same_eq_sameScalar hp, agrees_iff_sameScalar hp]
  | arr xs ih =>
    cases b with
    | arr ys =>
      rw [distinct_arr_iff] at ha hb
      rw [same, sameAll_eq_true_iff, agrees_arr_iff]
      exact ⟨fun h => forall₂_of_forall h fun x hx y hy => (ih x hx (ha x hx) (hb y hy)).mp,
        fun h => forall₂_of_forall h fun x hx y hy => (ih x hx (ha x hx) (hb y hy)).mpr⟩
    | _ => exact iff_of_false (by rintro ⟨⟩) (by rintro (_ | _ | ⟨⟨⟩⟩ | _ | _))
  | obj xs ih =>
    cases b with
    | obj ys =>
      have hvalues {name : String} {x y : Json} (hx : get? xs name = some x)
          (hy : get? ys name = some y) : x.same y = true ↔ Agrees x y :=
        ih _ (Entries.mem_of_get? hx) (get?_distinct ha hx) (get?_distinct hb hy)
      rw [same_obj_iff (distinct_obj_iff.mp ha).1 (distinct_obj_iff.mp hb).1, agrees_obj_iff]
      exact forall_congr' fun name =>
        ⟨fun h => rel_of_forall h fun x y hx hy => (hvalues hx hy).mp,
          fun h => rel_of_forall h fun x y hx hy => (hvalues hx hy).mpr⟩
    | _ => exact iff_of_false (by rintro ⟨⟩) (by rintro (_ | _ | ⟨⟨⟩⟩ | _ | _))

/-! ## An equivalence -/

/-- What relates three lists step by step relates the first to the last. -/
theorem forall₂_trans {α : Type} {R : α → α → Prop} {xs ys zs : List α}
    (hR : ∀ x ∈ xs, ∀ y z, R x y → R y z → R x z) (h : List.Forall₂ R xs ys)
    (h' : List.Forall₂ R ys zs) : List.Forall₂ R xs zs := by
  induction h generalizing zs with
  | nil => exact h'
  | cons hxy _ ih =>
    cases h' with
    | cons hyz hrest =>
      exact .cons (hR _ List.mem_cons_self _ _ hxy hyz)
        (ih (fun x hx => hR x (List.mem_cons_of_mem _ hx)) hrest)

namespace Agrees

theorem refl (a : Json) : Agrees a a := by
  induction a using parts_induction with
  | plain a hp => exact (agrees_iff_sameScalar hp).mpr (sameScalar_refl hp)
  | arr xs ih => exact .arr (List.forall₂_same.mpr ih)
  | obj xs ih =>
    refine .obj fun name => ?_
    cases hx : get? xs name with
    | none => exact .none
    | some x => exact .some (ih _ (Entries.mem_of_get? hx))

theorem symm (h : Agrees a b) : Agrees b a := by
  induction a using parts_induction generalizing b with
  | plain a hp =>
    cases h with
    | null => exact .null
    | str s => exact .str s
    | number ha hb => exact .number hb ha
    | arr _ | obj _ => cases hp
  | arr xs ih =>
    cases h with
    | number ha => cases ha
    | arr h => exact .arr (forall₂_of_forall h fun x hx y _ => ih x hx).flip
  | obj xs ih =>
    cases h with
    | number ha => cases ha
    | @obj _ ys h =>
      refine .obj fun name => ?_
      have hname := rel_of_forall (S := fun x y => Agrees y x) (h name) fun x _ hx _ =>
        ih _ (Entries.mem_of_get? hx)
      generalize get? xs name = x, get? ys name = y at hname
      cases hname with
      | none => exact .none
      | some h => exact .some h

theorem trans (h : Agrees a b) (h' : Agrees b c) : Agrees a c := by
  induction a using parts_induction generalizing b c with
  | plain a hp =>
    cases h with
    | null | str s => exact h'
    | number ha hb =>
      cases h' with
      | number hb' hc => exact .number ha (by rw [hc, ← hb', hb])
      | _ => cases hb
    | arr _ | obj _ => cases hp
  | arr xs ih =>
    cases h with
    | number ha => cases ha
    | arr h =>
      cases h' with
      | number hb => cases hb
      | arr h' => exact .arr (forall₂_trans (fun x hx _ _ => ih x hx) h h')
  | obj xs ih =>
    cases h with
    | number ha => cases ha
    | @obj _ ys h =>
      cases h' with
      | number hb => cases hb
      | @obj _ zs h' =>
        refine .obj fun name => ?_
        have hxy := h name
        have hyz := h' name
        cases hx : get? xs name with
        | none =>
          rw [hx] at hxy
          generalize get? ys name = y at hxy hyz
          cases hxy
          exact hyz
        | some x =>
          rw [hx] at hxy
          obtain ⟨y, hy, hxy⟩ := exists_of_rel hxy
          rw [hy] at hyz
          obtain ⟨z, hz, hyz⟩ := exists_of_rel hyz
          rw [hz]
          exact .some (ih _ (Entries.mem_of_get? hx) hxy hyz)

/-- Values that differ only in the order of members are equal. -/
theorem of_rearranged (h : Rearranged a b) : Agrees a b := by
  induction a using parts_induction generalizing b with
  | plain a hp =>
    obtain rfl := h.eq_of_plain hp
    exact .refl a
  | arr xs ih =>
    cases h with
    | plain hp => cases hp
    | arr h => exact .arr (forall₂_of_forall h fun x hx _ _ => ih x hx)
  | obj xs ih =>
    cases h with
    | plain hp => cases hp
    | obj h =>
      exact .obj fun name => rel_of_forall (h name) fun x _ hx _ => ih _ (Entries.mem_of_get? hx)

/-- Equal values under a name are equal to what each is equal to. -/
theorem rel_congr {x x' y y' : Option Json} (hx : Option.Rel Rearranged x x')
    (hy : Option.Rel Rearranged y y') : Option.Rel Agrees x y ↔ Option.Rel Agrees x' y' := by
  cases hx with
  | none =>
    cases hy with
    | none => exact Iff.rfl
    | some _ => exact iff_of_false nofun nofun
  | some hx =>
    cases hy with
    | none => exact iff_of_false nofun nofun
    | some hy =>
      have hx := of_rearranged hx
      have hy := of_rearranged hy
      exact ⟨fun | .some h => .some (hx.symm.trans (h.trans hy)),
        fun | .some h => .some (hx.trans (h.trans hy.symm))⟩

end Agrees

end AlbListener.Json

import Mathlib.Data.List.Nodup
import AlbListener.Proofs.Alike
import AlbListener.Sorting.Fallible

/-!
# Sorting related lists

Sorting asks only for comparisons. Lists whose elements are related, and compare alike, are sorted
alike: what comes out is related element by element. Distinct numbers can be sorted in one way only,
in whatever order they come.

Results:
* `sortWith_alike`: related lists are sorted alike.
* `sortBy_eq_of_perm`: elements with distinct numbers are sorted in one way.
-/

namespace AlbListener

variable {ε ε' α β : Type} {E : ε → ε' → Prop} {R : α → β → Prop}
  {less : α → α → Except ε Bool} {less' : β → β → Except ε' Bool}

/-! ## Comparisons that end alike -/

/-- Comparisons of related elements end alike. -/
def CompareAlike (E : ε → ε' → Prop) (R : α → β → Prop) (less : α → α → Except ε Bool)
    (less' : β → β → Except ε' Bool) : Prop :=
  ∀ a a' b b', R a a' → R b b' → Alike E Eq (less a b) (less' a' b')

theorem runBehind_alike (hless : CompareAlike E R less less') (descends : Bool) {last : α}
    {last' : β} (hlast : R last last') {l : List α} {l' : List β} (h : List.Forall₂ R l l') :
    Alike E (fun found found' => List.Forall₂ R found.1 found'.1 ∧ List.Forall₂ R found.2 found'.2)
      (runBehind less descends last l) (runBehind less' descends last' l') := by
  induction h generalizing last last' with
  | nil => exact .ok ⟨.nil, .nil⟩
  | cons ha hrest ih =>
    rw [runBehind, runBehind]
    refine (hless _ _ _ _ ha hlast).bind fun descending _ hd => ?_
    subst hd
    split_ifs
    · exact (ih ha).bind fun _ _ hfound => .ok ⟨.cons ha hfound.1, hfound.2⟩
    · exact .ok ⟨.nil, .cons ha hrest⟩

theorem firstRun_alike (hless : CompareAlike E R less less') {l : List α} {l' : List β}
    (h : List.Forall₂ R l l') :
    Alike E (fun found found' => List.Forall₂ R found.1 found'.1 ∧ List.Forall₂ R found.2 found'.2)
      (firstRun less l) (firstRun less' l') := by
  match h with
  | .nil => exact .ok ⟨.nil, .nil⟩
  | .cons ha .nil => exact .ok ⟨.cons ha .nil, .nil⟩
  | .cons ha (.cons hb hrest) =>
    rw [firstRun, firstRun]
    refine (hless _ _ _ _ hb ha).bind fun descends _ hd => ?_
    subst hd
    refine (runBehind_alike hless descends hb hrest).bind fun _ _ hfound => .ok ⟨?_, hfound.2⟩
    have hrun := List.Forall₂.cons ha (.cons hb hfound.1)
    cases descends
    · exact hrun
    · exact List.rel_reverse hrun

theorem placeBetween_alike (hless : CompareAlike E R less less') {a : α} {a' : β} (ha : R a a')
    {ordered : List α} {ordered' : List β} (h : List.Forall₂ R ordered ordered') (low high : ℕ) :
    Alike E Eq (placeBetween less a ordered low high) (placeBetween less' a' ordered' low high) := by
  rw [placeBetween.eq_def less, placeBetween.eq_def less']
  have hlength := h.length_eq
  by_cases hbetween : low < high ∧ low + (high - low) / 2 < ordered.length
  · have hbetween' : low < high ∧ low + (high - low) / 2 < ordered'.length := hlength ▸ hbetween
    rw [dif_pos hbetween, dif_pos hbetween']
    have hmiddle := hless _ _ _ _ ha (h.get hbetween.2 hbetween'.2)
    generalize less a (ordered.get ⟨_, hbetween.2⟩) = step,
      less' a' (ordered'.get ⟨_, hbetween'.2⟩) = step' at hmiddle
    cases hmiddle with
    | error he => exact .error he
    | ok he =>
      subst he
      rename_i before
      cases before
      · exact placeBetween_alike hless ha h _ high
      · exact placeBetween_alike hless ha h low _
  · rw [dif_neg hbetween, dif_neg (hlength ▸ hbetween)]
    exact .ok rfl
termination_by high - low

theorem insertInOrder_alike (hless : CompareAlike E R less less') {ordered : List α}
    {ordered' : List β} (h : List.Forall₂ R ordered ordered') {a : α} {a' : β} (ha : R a a') :
    Alike E (List.Forall₂ R) (insertInOrder less ordered a) (insertInOrder less' ordered' a') := by
  rw [insertInOrder, insertInOrder, h.length_eq]
  refine (placeBetween_alike hless ha h 0 _).bind fun place _ hplace => ?_
  subst hplace
  exact .ok (List.rel_append (List.forall₂_take place h) (.cons ha (List.forall₂_drop place h)))

/-- Related lists are sorted alike. -/
theorem sortWith_alike (hless : CompareAlike E R less less') {l : List α} {l' : List β}
    (h : List.Forall₂ R l l') : Alike E (List.Forall₂ R) (sortWith less l) (sortWith less' l') := by
  rw [sortWith, sortWith]
  refine (firstRun_alike hless h).bind fun found found' hfound => ?_
  obtain ⟨run, rest⟩ := found
  obtain ⟨run', rest'⟩ := found'
  obtain ⟨hrun, hrest⟩ := hfound
  dsimp only at hrun hrest ⊢
  induction hrest generalizing run run' with
  | nil => exact .ok hrun
  | cons ha _ ih =>
    rw [List.foldlM_cons, List.foldlM_cons]
    exact (insertInOrder_alike hless hrun ha).bind fun _ _ hnext => ih _ _ hnext

/-! ## Distinct numbers -/

/-- Whether one numbered element may stand before another. -/
def numberLe (a b : Int × α) : Bool := decide (a.1 ≤ b.1)

theorem numberLe_total (a b : Int × α) : numberLe a b || numberLe b a := by
  simpa [numberLe] using Int.le_total a.1 b.1

theorem numberLe_trans (a b c : Int × α) (h : numberLe a b) (h' : numberLe b c) :
    numberLe a c := by
  simp only [numberLe, decide_eq_true_eq] at h h' ⊢
  exact Int.le_trans h h'

/-- Elements with distinct numbers are sorted in one way, in whatever order they come. -/
theorem sortBy_eq_of_perm {l l' : List (Int × α)} (hd : (l.map Prod.fst).Nodup) (p : l.Perm l') :
    sortBy numberLe l = sortBy numberLe l' := by
  have hp : (sortBy numberLe l).Perm (sortBy numberLe l') :=
    (sortBy_perm _ l).trans (p.trans (sortBy_perm _ l').symm)
  refine List.Perm.eq_of_pairwise ?_ (pairwise_sortBy numberLe_total numberLe_trans l)
    (pairwise_sortBy numberLe_total numberLe_trans l') hp
  intro a b ha hb hab hba
  simp only [numberLe, decide_eq_true_eq] at hab hba
  refine List.inj_on_of_nodup_map hd ((sortBy_perm _ l).mem_iff.mp ha)
    ((sortBy_perm _ l).mem_iff.mp (hp.mem_iff.mpr hb)) (Int.le_antisymm hab hba)

end AlbListener

/-!
# Stable sorting

A list is sorted by inserting its elements one after the other from the end, each before the
first element that it may precede, so that equal elements keep their order.

Results:
* `sortBy_perm`: sorting keeps the elements.
* `pairwise_sortBy`: the result is in order, if the order is total and transitive.
* `sortBy_of_pairwise`: a list in order is left as it is.
* `sortBy_map`: elements can be mapped before or after they are sorted.
* `filter_sortBy`: elements of which each may precede the other keep their order.
-/

namespace AlbListener

variable {α β : Type}

/-- The list with an element inserted before the first that it may precede. -/
def insertBy (le : α → α → Bool) (a : α) : List α → List α
  | [] => [a]
  | b :: rest => if le a b then a :: b :: rest else b :: insertBy le a rest

/-- The list in order. -/
def sortBy (le : α → α → Bool) : List α → List α
  | [] => []
  | a :: rest => insertBy le a (sortBy le rest)

/-- The order of texts by code points. -/
def textLe (a b : String) : Bool := decide (a ≤ b)

/-- Texts in the order of their code points. -/
def sortTexts (texts : List String) : List String := sortBy textLe texts

theorem insertBy_perm (le : α → α → Bool) (a : α) (l : List α) :
    (insertBy le a l).Perm (a :: l) := by
  induction l with
  | nil => exact .refl _
  | cons b rest ih =>
    unfold insertBy
    split
    · exact .refl _
    · exact (ih.cons b).trans (.swap a b rest)

theorem sortBy_perm (le : α → α → Bool) (l : List α) : (sortBy le l).Perm l := by
  induction l with
  | nil => exact .refl _
  | cons a rest ih => exact (insertBy_perm le a _).trans (ih.cons a)

theorem pairwise_insertBy {le : α → α → Bool} (total : ∀ a b, le a b || le b a)
    (trans : ∀ a b c, le a b → le b c → le a c) (a : α) {l : List α}
    (h : l.Pairwise (le · ·)) : (insertBy le a l).Pairwise (le · ·) := by
  induction l with
  | nil => simp [insertBy]
  | cons b rest ih =>
    obtain ⟨hb, hrest⟩ := List.pairwise_cons.mp h
    unfold insertBy
    split
    case isTrue hab =>
      refine List.pairwise_cons.mpr ⟨fun c hc => ?_, h⟩
      rcases List.mem_cons.mp hc with rfl | hc
      · exact hab
      · exact trans _ _ _ hab (hb c hc)
    case isFalse hab =>
      have hba : le b a = true := by
        have := total a b
        simp_all
      refine List.pairwise_cons.mpr ⟨fun c hc => ?_, ih hrest⟩
      rcases List.mem_cons.mp ((insertBy_perm le a rest).mem_iff.mp hc) with rfl | hc
      · exact hba
      · exact hb c hc

theorem pairwise_sortBy {le : α → α → Bool} (total : ∀ a b, le a b || le b a)
    (trans : ∀ a b c, le a b → le b c → le a c) (l : List α) :
    (sortBy le l).Pairwise (le · ·) := by
  induction l with
  | nil => exact .nil
  | cons a rest ih => exact pairwise_insertBy total trans a ih

theorem sortBy_of_pairwise {le : α → α → Bool} {l : List α} (h : l.Pairwise (le · ·)) :
    sortBy le l = l := by
  induction l with
  | nil => rfl
  | cons a rest ih =>
    obtain ⟨ha, hrest⟩ := List.pairwise_cons.mp h
    rw [sortBy, ih hrest]
    cases rest with
    | nil => rfl
    | cons b rest => simp [insertBy, ha b (by simp)]

theorem insertBy_map (le : β → β → Bool) (f : α → β) (a : α) (l : List α) :
    insertBy le (f a) (l.map f) = (insertBy (fun a b => le (f a) (f b)) a l).map f := by
  induction l with
  | nil => rfl
  | cons b rest ih =>
    rw [List.map_cons, insertBy, insertBy]
    split
    · rfl
    · rw [ih, List.map_cons]

theorem sortBy_map (le : β → β → Bool) (f : α → β) (l : List α) :
    sortBy le (l.map f) = (sortBy (fun a b => le (f a) (f b)) l).map f := by
  induction l with
  | nil => rfl
  | cons a rest ih => rw [List.map_cons, sortBy, ih, insertBy_map, sortBy]

theorem filter_insertBy {le : α → α → Bool} {p : α → Bool}
    (h : ∀ a b, p a = true → p b = true → le a b = true) (a : α) (l : List α) :
    (insertBy le a l).filter p = (a :: l).filter p := by
  induction l with
  | nil => rfl
  | cons b rest ih =>
    rw [insertBy]
    split
    case isTrue => rfl
    case isFalse hab =>
      -- the element passes only those that do not stand together with it
      have hne : p a = true → p b = false := fun ha =>
        Bool.eq_false_iff.mpr fun hb => hab (h a b ha hb)
      rw [List.filter_cons, ih]
      cases ha : p a with
      | true => simp [ha, hne ha]
      | false => simp [List.filter_cons, ha]

theorem filter_sortBy {le : α → α → Bool} {p : α → Bool}
    (h : ∀ a b, p a = true → p b = true → le a b = true) (l : List α) :
    (sortBy le l).filter p = l.filter p := by
  induction l with
  | nil => rfl
  | cons a rest ih => rw [sortBy, filter_insertBy h, List.filter_cons, List.filter_cons, ih]

end AlbListener

import AlbListener.Sorting

/-!
# Sorting with comparisons that may fail

Where two elements cannot be compared, which pair is met first depends on the order of the
comparisons, so that is fixed here. The run at the front of the list is found first: it goes
on as long as no element is less than the one before it, or, if the second element is less
than the first, as long as every element is; such a run is reversed. Each element behind it is
then inserted behind the elements that it is not less than, at a place found by halving.

Results:
* `sortWith_eq_sortBy`: with comparisons that always succeed this is the stable sort.
* `sortWith_perm`: sorting keeps the elements.
-/

namespace AlbListener

variable {ε α : Type}

/-! ## The run at the front -/

/-- The elements that go on in a run behind its last one, and the rest. A run descends, each
    element less than the one before it, or never does. -/
def runBehind (less : α → α → Except ε Bool) (descends : Bool) (last : α) :
    List α → Except ε (List α × List α)
  | [] => .ok ([], [])
  | a :: rest => do
    if (← less a last) = descends then
      let (run, rest) ← runBehind less descends a rest
      return (a :: run, rest)
    else return ([], a :: rest)

/-- The run at the front in ascending order, and the rest. -/
def firstRun (less : α → α → Except ε Bool) : List α → Except ε (List α × List α)
  | a :: b :: rest => do
    let descends ← less b a
    let (run, rest) ← runBehind less descends b rest
    let run := a :: b :: run
    return (if descends then run.reverse else run, rest)
  | short => .ok (short, [])

/-! ## Insertion -/

/-- The place of an element among elements in order, which is known to lie between two
    places. -/
def placeBetween (less : α → α → Except ε Bool) (a : α) (ordered : List α) (low high : Nat) :
    Except ε Nat :=
  if h : low < high ∧ low + (high - low) / 2 < ordered.length then
    match less a (ordered.get ⟨low + (high - low) / 2, h.2⟩) with
    | .error e => .error e
    | .ok true => placeBetween less a ordered low (low + (high - low) / 2)
    | .ok false => placeBetween less a ordered (low + (high - low) / 2 + 1) high
  else .ok low
termination_by high - low

/-- Elements in order with one more behind those that it is not less than. -/
def insertInOrder (less : α → α → Except ε Bool) (ordered : List α) (a : α) :
    Except ε (List α) := do
  let place ← placeBetween less a ordered 0 ordered.length
  return ordered.take place ++ a :: ordered.drop place

/-- A list in ascending order, equal elements as they came. -/
def sortWith (less : α → α → Except ε Bool) (l : List α) : Except ε (List α) := do
  let (run, rest) ← firstRun less l
  rest.foldlM (insertInOrder less) run

/-! ## Elements are kept -/

theorem append_of_runBehind {less : α → α → Except ε Bool} {descends : Bool} {last : α}
    {l : List α} {found : List α × List α} (h : runBehind less descends last l = .ok found) :
    found.1 ++ found.2 = l := by
  induction l generalizing last found with
  | nil => cases h; rfl
  | cons a rest ih =>
    simp only [runBehind, bind, Except.bind] at h
    split at h
    · contradiction
    · split at h
      · split at h
        · contradiction
        · rename_i tail ht
          cases h
          simp [ih ht]
      · cases h; rfl

theorem firstRun_perm {less : α → α → Except ε Bool} {l : List α} {found : List α × List α}
    (h : firstRun less l = .ok found) : (found.1 ++ found.2).Perm l := by
  match l with
  | [] | [_] => cases h; simp
  | a :: b :: rest =>
    simp only [firstRun, bind, Except.bind] at h
    split at h
    · contradiction
    · split at h
      · contradiction
      · rename_i descends _ _ tail ht
        have e := append_of_runBehind ht
        cases h
        cases descends
        · simp [e]
        · refine ((List.reverse_perm _).append_right _).trans ?_
          simp [e]

theorem insertInOrder_perm {less : α → α → Except ε Bool} {ordered l : List α} {a : α}
    (h : insertInOrder less ordered a = .ok l) : l.Perm (a :: ordered) := by
  simp only [insertInOrder, bind, Except.bind] at h
  split at h
  · contradiction
  · rename_i place _
    cases h
    refine List.perm_middle.trans ?_
    rw [List.take_append_drop]

theorem foldlM_insertInOrder_perm {less : α → α → Except ε Bool} {ordered rest l : List α}
    (h : rest.foldlM (insertInOrder less) ordered = .ok l) : l.Perm (ordered ++ rest) := by
  induction rest generalizing ordered with
  | nil => cases h; simp
  | cons a rest ih =>
    simp only [List.foldlM_cons, bind, Except.bind] at h
    split at h
    · contradiction
    · rename_i next hn
      exact (ih h).trans (((insertInOrder_perm hn).append_right rest).trans
        List.perm_middle.symm)

theorem sortWith_perm {less : α → α → Except ε Bool} {l sorted : List α}
    (h : sortWith less l = .ok sorted) : sorted.Perm l := by
  simp only [sortWith, bind, Except.bind] at h
  split at h
  · contradiction
  · rename_i found hf
    exact (foldlM_insertInOrder_perm h).trans (firstRun_perm hf)

/-! ## Comparisons that succeed -/

/-- The list with an element inserted behind the elements that may precede it. -/
def insertBehind (le : α → α → Bool) (a : α) : List α → List α
  | [] => [a]
  | b :: rest => if le b a then b :: insertBehind le a rest else a :: b :: rest

theorem insertBy_insertBehind {le : α → α → Bool} (total : ∀ a b, le a b || le b a)
    (trans : ∀ a b c, le a b → le b c → le a c) (a b : α) (l : List α) :
    insertBy le b (insertBehind le a l) = insertBehind le a (insertBy le b l) := by
  induction l with
  | nil => by_cases h : le b a <;> simp [insertBy, insertBehind, h]
  | cons c rest ih =>
    have hca := total c a
    have hbc := total b c
    by_cases h₁ : le c a <;> by_cases h₂ : le b c
    · simp [insertBy, insertBehind, h₁, h₂, trans b c a h₂ h₁]
    · simp [insertBy, insertBehind, h₁, h₂, ih]
    · by_cases h₃ : le b a <;> simp [insertBy, insertBehind, h₁, h₂, h₃]
    · have h₃ : ¬ le b a := fun h => h₂ (trans b a c h (by simpa [h₁] using hca))
      simp [insertBy, insertBehind, h₁, h₂, h₃]

theorem sortBy_concat {le : α → α → Bool} (total : ∀ a b, le a b || le b a)
    (trans : ∀ a b c, le a b → le b c → le a c) (a : α) (l : List α) :
    sortBy le (l ++ [a]) = insertBehind le a (sortBy le l) := by
  induction l with
  | nil => rfl
  | cons b rest ih =>
    simp only [List.cons_append, sortBy]
    rw [ih, insertBy_insertBehind total trans]

theorem insertBehind_eq {le : α → α → Bool} {a : α} {l : List α} {place : Nat}
    (before : ∀ b ∈ l.take place, le b a) (behind : ∀ b ∈ l.drop place, ¬ le b a) :
    insertBehind le a l = l.take place ++ a :: l.drop place := by
  induction l generalizing place with
  | nil => simp [insertBehind]
  | cons b rest ih =>
    cases place with
    | zero =>
      have hb := behind b (by simp)
      simp [insertBehind, hb]
    | succ place =>
      have hb := before b (by simp)
      have e := @ih place (fun c hc => before c (by simp [hc]))
        (fun c hc => behind c (by simpa using hc))
      rw [insertBehind, if_pos hb, e]
      rfl

theorem placeBetween_eq {le : α → α → Bool} {less : α → α → Except ε Bool}
    (hless : ∀ a b, less a b = .ok (!le b a)) (trans : ∀ a b c, le a b → le b c → le a c)
    (a : α) {ordered : List α} (h : ordered.Pairwise (le · ·)) (low high : Nat)
    (hle : low ≤ high) (hhigh : high ≤ ordered.length)
    (before : ∀ b ∈ ordered.take low, le b a) (behind : ∀ b ∈ ordered.drop high, ¬ le b a) :
    ∃ place, placeBetween less a ordered low high = .ok place ∧
      (∀ b ∈ ordered.take place, le b a) ∧ ∀ b ∈ ordered.drop place, ¬ le b a := by
  rw [placeBetween]
  by_cases hlt : low < high
  · have hm : low + (high - low) / 2 < ordered.length := by omega
    rw [dif_pos ⟨hlt, hm⟩]
    simp only [hless, List.get_eq_getElem]
    have hpair := List.pairwise_iff_getElem.mp h
    by_cases hc : le ordered[low + (high - low) / 2] a
    · simp only [hc, Bool.not_true]
      refine placeBetween_eq hless trans a h _ high (by omega) hhigh ?_ behind
      intro b hb
      obtain ⟨i, hi, rfl⟩ := List.mem_take_iff_getElem.mp hb
      rcases Nat.lt_or_eq_of_le (Nat.le_of_lt_succ (Nat.lt_of_lt_of_le hi (Nat.min_le_left _ _)))
        with hlt | rfl
      · exact trans _ _ _ (hpair _ _ (by omega) hm hlt) hc
      · exact hc
    · simp only [hc, Bool.not_false]
      refine placeBetween_eq hless trans a h low _ (by omega) (by omega) before ?_
      intro b hb hba
      obtain ⟨i, hi, rfl⟩ := List.mem_drop_iff_getElem.mp hb
      rcases Nat.eq_zero_or_pos i with rfl | hpos
      · exact hc hba
      · exact hc (trans _ _ _ (hpair _ _ hm (by omega) (by omega)) hba)
  · have e : low = high := by omega
    subst e
    rw [dif_neg (by omega)]
    exact ⟨low, rfl, before, behind⟩
termination_by high - low

theorem insertInOrder_eq {le : α → α → Bool} {less : α → α → Except ε Bool}
    (hless : ∀ a b, less a b = .ok (!le b a)) (trans : ∀ a b c, le a b → le b c → le a c)
    (a : α) {ordered : List α} (h : ordered.Pairwise (le · ·)) :
    insertInOrder less ordered a = .ok (insertBehind le a ordered) := by
  obtain ⟨place, hp, before, behind⟩ := placeBetween_eq hless trans a h 0 ordered.length
    (Nat.zero_le _) (Nat.le_refl _) (by simp) (by simp)
  simp only [insertInOrder, hp, bind, Except.bind, insertBehind_eq before behind]
  rfl

theorem foldlM_insertInOrder {le : α → α → Bool} {less : α → α → Except ε Bool}
    (hless : ∀ a b, less a b = .ok (!le b a)) (total : ∀ a b, le a b || le b a)
    (trans : ∀ a b c, le a b → le b c → le a c) (l rest : List α) :
    rest.foldlM (insertInOrder less) (sortBy le l) = .ok (sortBy le (l ++ rest)) := by
  induction rest generalizing l with
  | nil => simp [pure, Except.pure]
  | cons a rest ih =>
    simp only [List.foldlM_cons, insertInOrder_eq hless trans a (pairwise_sortBy total trans l),
      bind, Except.bind, ← sortBy_concat total trans, ih]
    simp

theorem runBehind_eq {le : α → α → Bool} {less : α → α → Except ε Bool}
    (hless : ∀ a b, less a b = .ok (!le b a)) {descends : Bool}
    (trans : ∀ a b c, (!le a b) = descends → (!le b c) = descends → (!le a c) = descends)
    (last : α) (l : List α) :
    ∃ found, runBehind less descends last l = .ok found ∧ found.1 ++ found.2 = l ∧
      (last :: found.1).Pairwise fun a b => (!le a b) = descends := by
  induction l generalizing last with
  | nil => exact ⟨([], []), rfl, rfl, by simp⟩
  | cons a rest ih =>
    simp only [runBehind, hless, bind, Except.bind]
    by_cases h : (!le last a) = descends
    · obtain ⟨found, hf, ha, hc⟩ := ih a
      refine ⟨(a :: found.1, found.2), ?_, by simp [ha], ?_⟩
      · simp only [if_pos h, hf]
        rfl
      · refine List.pairwise_cons.mpr ⟨fun b hb => ?_, hc⟩
        rcases List.mem_cons.mp hb with rfl | hb
        · exact h
        · exact trans _ _ _ h (List.rel_of_pairwise_cons hc hb)
    · exact ⟨([], a :: rest), by simp only [if_neg h]; rfl, rfl, by simp⟩

theorem insertBy_of_forall_not {le : α → α → Bool} {a : α} {l : List α}
    (h : ∀ b ∈ l, ¬ le a b) : insertBy le a l = l ++ [a] := by
  induction l with
  | nil => rfl
  | cons b rest ih =>
    rw [insertBy, if_neg (h b (by simp)), ih fun c hc => h c (by simp [hc])]
    rfl

theorem sortBy_of_descending {le : α → α → Bool} {l : List α}
    (h : l.Pairwise fun a b => ¬ le a b) : sortBy le l = l.reverse := by
  induction l with
  | nil => rfl
  | cons a rest ih =>
    obtain ⟨ha, hrest⟩ := List.pairwise_cons.mp h
    rw [sortBy, ih hrest, insertBy_of_forall_not (by simpa using ha), List.reverse_cons]

theorem firstRun_eq {le : α → α → Bool} {less : α → α → Except ε Bool}
    (hless : ∀ a b, less a b = .ok (!le b a)) (total : ∀ a b, le a b || le b a)
    (trans : ∀ a b c, le a b → le b c → le a c) (l : List α) :
    ∃ run rest, firstRun less l = .ok (sortBy le run, rest) ∧ run ++ rest = l := by
  match l with
  | [] => exact ⟨[], [], rfl, rfl⟩
  | [a] => exact ⟨[a], [], rfl, rfl⟩
  | a :: b :: rest =>
    have step (descends : Bool) : ∀ x y z, (!le x y) = descends → (!le y z) = descends →
        (!le x z) = descends := by
      intro x y z h₁ h₂
      cases descends
      · simp only [Bool.not_eq_false'] at h₁ h₂ ⊢
        exact trans x y z h₁ h₂
      · simp only [Bool.not_eq_true'] at h₁ h₂ ⊢
        refine Bool.eq_false_iff.mpr fun h₃ => ?_
        have hzy : le z y = true := by simpa [h₂] using total y z
        exact Bool.eq_false_iff.mp h₁ (trans x z y h₃ hzy)
    obtain ⟨found, hf, happend, hrun⟩ := runBehind_eq hless (step (!le a b)) b rest
    refine ⟨a :: b :: found.1, found.2, ?_, by simp [happend]⟩
    have hrun : (a :: b :: found.1).Pairwise fun x y => (!le x y) = (!le a b) := by
      refine List.pairwise_cons.mpr ⟨fun c hc => ?_, hrun⟩
      rcases List.mem_cons.mp hc with rfl | hc
      · rfl
      · exact step _ _ _ _ rfl (List.rel_of_pairwise_cons hrun hc)
    simp only [firstRun, hless, bind, Except.bind, hf]
    cases hab : le a b with
    | true =>
      rw [hab] at hrun
      rw [sortBy_of_pairwise (hrun.imp (by simp))]
      rfl
    | false =>
      rw [hab] at hrun
      rw [sortBy_of_descending (hrun.imp (by simp))]
      rfl

theorem sortWith_eq_sortBy {le : α → α → Bool} {less : α → α → Except ε Bool}
    (hless : ∀ a b, less a b = .ok (!le b a)) (total : ∀ a b, le a b || le b a)
    (trans : ∀ a b c, le a b → le b c → le a c) (l : List α) :
    sortWith less l = .ok (sortBy le l) := by
  obtain ⟨run, rest, hf, happend⟩ := firstRun_eq hless total trans l
  simp only [sortWith, hf, bind, Except.bind, foldlM_insertInOrder hless total trans, happend]

end AlbListener

import AlbListener.Proofs.Json.Reordered

/-!
# Values that differ in few places

Two values are twins if they are the same, or if they are objects that have the same names in the
same order and the same values under them, except under some names, where the values are related in
a way of their own. Looking up, storing and sorting members makes no difference between twins, as
long as it does not look at the values under these names.

Results:
* `MembersTwin.get?_eq`: other members are the same.
* `MembersTwin.put`, `MembersTwin.overlay`: members that are stored.
* `Json.TwinAt.sorted`, `Json.TwinAt.reread`: twins with their members in order, or read back.
-/

namespace AlbListener

open Entries (get?)

/-- Members with the same names in the same order and, except under some names, the same values. -/
abbrev MembersTwin {κ υ : Type} (special : κ → Prop) (R : υ → υ → Prop) :
    List (κ × υ) → List (κ × υ) → Prop :=
  List.Forall₂ fun m m' => m.1 = m'.1 ∧ (m.2 = m'.2 ∨ special m.1 ∧ R m.2 m'.2)

namespace MembersTwin

variable {υ ω : Type} {special : String → Prop} {R : υ → υ → Prop} {ms ms' : List (String × υ)}

theorem refl (ms : List (String × υ)) : MembersTwin special R ms ms :=
  List.forall₂_same.mpr fun _ _ => ⟨rfl, .inl rfl⟩

theorem append {ns ns' : List (String × υ)} (h : MembersTwin special R ms ms')
    (hn : MembersTwin special R ns ns') : MembersTwin special R (ms ++ ns) (ms' ++ ns') :=
  List.rel_append h hn

/-- Values that are looked up. -/
theorem get? (h : MembersTwin special R ms ms') (name : String) :
    Option.Rel (fun v v' => v = v' ∨ special name ∧ R v v') (get? ms name)
      (Entries.get? ms' name) := by
  induction h with
  | nil => exact .none
  | cons hm _ ih =>
    obtain ⟨hname, hvalue⟩ := hm
    rw [Entries.get?, Entries.get?, ← hname]
    split_ifs with hn
    · exact .some (hn ▸ hvalue)
    · exact ih

theorem get?_eq (h : MembersTwin special R ms ms') {name : String} (hn : ¬ special name) :
    Entries.get? ms name = Entries.get? ms' name := by
  have hrel := h.get? name
  generalize Entries.get? ms name = x, Entries.get? ms' name = y at hrel
  cases hrel with
  | none => rfl
  | some h => exact congrArg some (h.resolve_right fun h => hn h.1)

theorem has (h : MembersTwin special R ms ms') (name : String) :
    Entries.has ms name = Entries.has ms' name := by
  have hrel := h.get? name
  rw [Entries.has, Entries.has]
  generalize Entries.get? ms name = x, Entries.get? ms' name = y at hrel
  cases hrel <;> rfl

theorem erase (h : MembersTwin special R ms ms') (name : String) :
    MembersTwin special R (Entries.erase ms name) (Entries.erase ms' name) :=
  List.rel_filter (fun _ _ hm => by dsimp only; rw [hm.1]) h

/-- Members without the one that may differ. -/
theorem erase_eq (h : MembersTwin special R ms ms') {name : String}
    (hs : ∀ other, special other → other = name) :
    Entries.erase ms name = Entries.erase ms' name := by
  unfold Entries.erase
  induction h with
  | nil => rfl
  | cons hm _ ih =>
    obtain ⟨hname, hvalue⟩ := hm
    rw [List.filter_cons, List.filter_cons, ← hname, ih]
    split_ifs with hn
    · rw [bne_iff_ne] at hn
      rw [Prod.ext hname (hvalue.resolve_right fun h => hn (hs _ h.1))]
    · rfl

theorem put (h : MembersTwin special R ms ms') {name : String} {v v' : υ}
    (hv : v = v' ∨ special name ∧ R v v') :
    MembersTwin special R (Entries.put ms name v) (Entries.put ms' name v') := by
  induction h with
  | nil => exact .cons ⟨rfl, hv⟩ .nil
  | cons hm hrest ih =>
    rw [Entries.put, Entries.put, ← hm.1]
    split_ifs with hn
    · exact .cons ⟨rfl, hn ▸ hv⟩ hrest
    · exact .cons ⟨rfl, hm.1 ▸ hm.2⟩ ih

/-- Members with others stored over them. -/
theorem overlay {lower lower' upper upper' : List (String × υ)}
    (h : MembersTwin special R lower lower') (hu : MembersTwin special R upper upper') :
    MembersTwin special R (Entries.overlay lower upper) (Entries.overlay lower' upper') := by
  induction hu generalizing lower lower' with
  | nil => exact h
  | cons hm _ ih =>
    rw [Entries.overlay_cons, Entries.overlay_cons, ← hm.1]
    exact ih (h.put hm.2)

/-- Members none of which may differ. -/
theorem eq_of_not_mem (h : MembersTwin special R ms ms')
    (hs : ∀ name ∈ Entries.names ms, ¬ special name) : ms = ms' := by
  induction h with
  | nil => rfl
  | cons hm _ ih =>
    obtain ⟨hname, hvalue⟩ := hm
    obtain ⟨hn, hs⟩ := List.forall_mem_cons.mp hs
    rw [Prod.ext hname (hvalue.resolve_right fun h => hn h.1), ih hs]

/-- Members over which a value is stored where they may differ. -/
theorem put_eq (h : MembersTwin special R ms ms') (hd : Entries.Distinct ms) {name : String}
    (hs : ∀ other, special other → other = name) (v : υ) :
    Entries.put ms name v = Entries.put ms' name v := by
  induction h with
  | nil => rfl
  | cons hm hrest ih =>
    obtain ⟨hname, hvalue⟩ := hm
    obtain ⟨hnew, hd⟩ := Entries.distinct_cons_iff.mp hd
    rw [Entries.put, Entries.put, ← hname]
    split_ifs with hn
    · rw [eq_of_not_mem hrest fun other hm hsp => hnew (by rwa [hn, ← hs other hsp])]
    · rw [Prod.ext hname (hvalue.resolve_right fun h => hn (hs _ h.1)), ih hd]

theorem map {S : ω → ω → Prop} (h : MembersTwin special R ms ms') {f : υ → ω}
    (hf : ∀ v v', R v v' → S (f v) (f v')) :
    MembersTwin special S (ms.map fun m => (m.1, f m.2)) (ms'.map fun m => (m.1, f m.2)) := by
  rw [MembersTwin, List.forall₂_map_left_iff, List.forall₂_map_right_iff]
  exact h.imp fun _ _ hm => ⟨hm.1, hm.2.imp (congrArg f) (And.imp_right (hf _ _))⟩

/-- Members of which nothing is kept that may differ. -/
theorem map_eq (h : MembersTwin special R ms ms') {f : υ → ω}
    (hf : ∀ m ∈ ms, ∀ v', R m.2 v' → f m.2 = f v') :
    (ms.map fun m => (m.1, f m.2)) = ms'.map fun m => (m.1, f m.2) := by
  induction h with
  | nil => rfl
  | cons hm _ ih =>
    obtain ⟨hname, hvalue⟩ := hm
    obtain ⟨hhead, hf⟩ := List.forall_mem_cons.mp hf
    rw [List.map_cons, List.map_cons, ih hf, hname,
      hvalue.elim (congrArg f) fun h => hhead _ h.2]

theorem isEmpty (h : MembersTwin special R ms ms') : ms.isEmpty = ms'.isEmpty := by
  cases h <;> rfl

end MembersTwin

/-! ## Sorting -/

theorem insertBy_alike {α β : Type} {R : α → β → Prop} {le : α → α → Bool} {le' : β → β → Bool}
    (hle : ∀ a a' b b', R a a' → R b b' → le a b = le' a' b') {a : α} {a' : β} (ha : R a a')
    {l : List α} {l' : List β} (h : List.Forall₂ R l l') :
    List.Forall₂ R (insertBy le a l) (insertBy le' a' l') := by
  induction h with
  | nil => exact .cons ha .nil
  | cons hb hrest ih =>
    rw [insertBy, insertBy, hle _ _ _ _ ha hb]
    split_ifs
    · exact .cons ha (.cons hb hrest)
    · exact .cons hb ih

/-- Related lists, whose elements compare alike, are sorted alike. -/
theorem sortBy_alike {α β : Type} {R : α → β → Prop} {le : α → α → Bool} {le' : β → β → Bool}
    (hle : ∀ a a' b b', R a a' → R b b' → le a b = le' a' b') {l : List α} {l' : List β}
    (h : List.Forall₂ R l l') : List.Forall₂ R (sortBy le l) (sortBy le' l') := by
  induction h with
  | nil => exact .nil
  | cons ha _ ih => exact insertBy_alike hle ha ih

theorem MembersTwin.sortMembers {special : String → Prop} {R : Json → Json → Prop}
    {ms ms' : List (String × Json)} (h : MembersTwin special R ms ms') :
    MembersTwin special R (Json.sortMembers ms) (Json.sortMembers ms') :=
  sortBy_alike (fun _ _ _ _ ha hb => by rw [ha.1, hb.1]) h

namespace Json

/-! ## Twins -/

/-- Values that are the same, or objects that differ at most under some names. -/
inductive TwinAt (special : String → Prop) (R : Json → Json → Prop) : Json → Json → Prop
  | refl (value : Json) : TwinAt special R value value
  | obj {ms ms' : List (String × Json)} (h : MembersTwin special R ms ms') :
      TwinAt special R (.obj ms) (.obj ms')

/-- Values that are the same, or arrays of related elements. -/
inductive TwinAll (R : Json → Json → Prop) : Json → Json → Prop
  | refl (value : Json) : TwinAll R value value
  | arr {elements elements' : List Json} (h : List.Forall₂ R elements elements') :
      TwinAll R (.arr elements) (.arr elements')

namespace TwinAt

variable {special : String → Prop} {R : Json → Json → Prop} {a b : Json}

theorem isTruthy (h : TwinAt special R a b) : a.isTruthy = b.isTruthy := by
  cases h with
  | refl => rfl
  | obj h => rw [Json.isTruthy, Json.isTruthy, h.isEmpty]

theorem orElse {S : Json → Json → Prop} {d : Json} (h : TwinAt special R a b)
    (hS : ∀ a b, TwinAt special R a b → S a b) (hd : S d d) : S (a.orElse d) (b.orElse d) := by
  unfold Json.orElse
  rw [h.isTruthy]
  split_ifs
  · exact hS _ _ h
  · exact hd

/-- Members that are looked up under a name where values are related, whether they differ or not. -/
theorem getD (h : TwinAt special R a b) (hR : ∀ v, R v v) (name : String) (d : Json) :
    Alike Eq R (a.getD name d) (b.getD name d) := by
  cases h with
  | refl => exact .refl (fun _ => rfl) hR _
  | @obj ms ms' h =>
    have hrel := h.get? name
    rw [getD_obj, getD_obj]
    generalize Entries.get? ms name = x, Entries.get? ms' name = y at hrel
    cases hrel with
    | none => exact .ok (hR d)
    | some hv => exact .ok (hv.elim (fun he => he ▸ hR _) And.right)

theorem member (h : TwinAt special R a b) (hR : ∀ v, R v v) (name : String) :
    Alike Eq R (a.member name) (b.member name) := by
  cases h with
  | refl => exact .refl (fun _ => rfl) hR _
  | @obj ms ms' h =>
    have hrel := h.get? name
    rw [Json.member, Json.member]
    generalize Entries.get? ms name = x, Entries.get? ms' name = y at hrel
    cases hrel with
    | none => exact .error rfl
    | some hv => exact .ok (hv.elim (fun he => he ▸ hR _) And.right)

/-- Members under other names are the same. -/
theorem getD_eq (h : TwinAt special R a b) {name : String} (hn : ¬ special name) (d : Json) :
    a.getD name d = b.getD name d := by
  cases h with
  | refl => rfl
  | obj h => rw [getD_obj, getD_obj, h.get?_eq hn]

theorem member_eq (h : TwinAt special R a b) {name : String} (hn : ¬ special name) :
    a.member name = b.member name := by
  cases h with
  | refl => rfl
  | obj h => rw [Json.member, Json.member, h.get?_eq hn]

theorem mentions (h : TwinAt special R a b) (name : String) :
    a.mentions name = b.mentions name := by
  cases h with
  | refl => rfl
  | obj h => rw [mentions_obj, mentions_obj, h.has]

theorem toMembers (h : TwinAt special R a b) :
    Alike Eq (MembersTwin special R) a.toMembers b.toMembers := by
  cases h with
  | refl => exact .refl (fun _ => rfl) .refl _
  | obj h => exact .ok h

theorem sorted (h : TwinAt special R a b) (hR : ∀ v v', R v v' → R v.sorted v'.sorted) :
    TwinAt special R a.sorted b.sorted := by
  cases h with
  | refl => exact .refl _
  | obj h =>
    rw [sorted_obj, sorted_obj]
    exact .obj (h.map hR).sortMembers

theorem reread (h : TwinAt special R a b) (hR : ∀ v v', R v v' → R v.reread v'.reread) :
    TwinAt special R a.reread b.reread := by
  cases h with
  | refl => exact .refl _
  | obj h =>
    rw [Json.reread, Json.reread, rereadMembers_eq_map, rereadMembers_eq_map]
    exact .obj (.overlay (.refl []) (h.map hR))

end TwinAt

namespace TwinAll

variable {R : Json → Json → Prop} {a b : Json}

/-- The elements of an array, or of nothing if it is empty. -/
theorem elements (h : TwinAll R a b) (hR : ∀ v, R v v) :
    Alike Eq (List.Forall₂ R) a.elements b.elements := by
  cases h with
  | refl => exact .refl (fun _ => rfl) (fun _ => List.forall₂_same.mpr fun v _ => hR v) _
  | arr h => exact .ok h

theorem orElse (h : TwinAll R a b) (d : Json) : TwinAll R (a.orElse d) (b.orElse d) := by
  cases h with
  | refl => exact .refl _
  | arr h =>
    unfold Json.orElse
    cases h with
    | nil => exact .refl _
    | cons hv hrest => exact .arr (.cons hv hrest)

theorem first (h : TwinAll R a b) (hR : ∀ v, R v v) : Alike Eq R a.first b.first := by
  cases h with
  | refl => exact .refl (fun _ => rfl) hR _
  | arr h =>
    cases h with
    | nil => exact .error rfl
    | cons hv _ => exact .ok hv

end TwinAll

end Json

end AlbListener

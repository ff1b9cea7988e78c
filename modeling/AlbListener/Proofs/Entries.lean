import Mathlib.Data.List.Forall2
import Mathlib.Data.List.Nodup
import Mathlib.Data.Option.Basic
import Mathlib.Tactic.SplitIfs
import AlbListener.Json.Basic

/-!
# Entries with distinct names

A list of named values stands for a mapping if its names are distinct. Storing, removing and
sorting keep them so, and two such lists with the same values are the same up to order.

Results:
* `get?_eq_some_iff`: the value of a name is the one it stands beside.
* `Distinct.put`, `Distinct.erase`, `Distinct.overlay`, `distinct_ofPairs`: names stay distinct.
* `perm_of_get?_eq`: the values of all names determine the entries up to order.
* `forall₂_iff_rel_get?`: entries in the order of their names are compared one after the other.
* `Json.sortMembers_eq_of_perm`: sorting by name forgets the order.
-/

namespace AlbListener

namespace Entries

variable {α : Type}

/-- Each name has one value. -/
def Distinct (entries : Entries α) : Prop := (names entries).Nodup

/-! ## Looking up -/

theorem mem_names_iff {entries : Entries α} {key : String} :
    key ∈ names entries ↔ ∃ value, (key, value) ∈ entries := by
  simp [names]

theorem mem_names_of_mem {entries : Entries α} {entry : String × α} (h : entry ∈ entries) :
    entry.1 ∈ names entries := mem_names_iff.mpr ⟨entry.2, h⟩

@[simp] theorem distinct_nil : Distinct ([] : Entries α) := List.nodup_nil

theorem distinct_cons_iff {entry : String × α} {rest : Entries α} :
    Distinct (entry :: rest) ↔ entry.1 ∉ names rest ∧ Distinct rest := List.nodup_cons

theorem get?_eq_none_iff {entries : Entries α} {key : String} :
    get? entries key = none ↔ key ∉ names entries := by
  induction entries with
  | nil => simp [get?, names]
  | cons entry rest ih =>
    rw [get?]
    split_ifs with h
    · simp [names, h]
    · rw [ih, names, names, List.map_cons, List.mem_cons, not_or]
      exact ⟨fun hk => ⟨fun e => h e.symm, hk⟩, fun hk => hk.2⟩

theorem mem_of_get? {entries : Entries α} {key : String} {value : α}
    (h : get? entries key = some value) : (key, value) ∈ entries := by
  induction entries with
  | nil => cases h
  | cons entry rest ih =>
    rw [get?] at h
    split_ifs at h with hk
    · cases h
      subst hk
      exact List.mem_cons_self
    · exact List.mem_cons_of_mem _ (ih h)

theorem get?_of_mem {entries : Entries α} (hd : Distinct entries) {key : String} {value : α}
    (h : (key, value) ∈ entries) : get? entries key = some value := by
  induction entries with
  | nil => cases h
  | cons entry rest ih =>
    obtain ⟨hn, hrest⟩ := distinct_cons_iff.mp hd
    rcases List.mem_cons.mp h with rfl | hm
    · simp [get?]
    · have hk : entry.1 ≠ key := by
        rintro rfl
        exact hn (mem_names_iff.mpr ⟨value, hm⟩)
      rw [get?, if_neg hk]
      exact ih hrest hm

theorem get?_eq_some_iff {entries : Entries α} (hd : Distinct entries) {key : String} {value : α} :
    get? entries key = some value ↔ (key, value) ∈ entries := ⟨mem_of_get?, get?_of_mem hd⟩

theorem get?_append (xs ys : Entries α) (key : String) :
    get? (xs ++ ys) key = (get? xs key).or (get? ys key) := by
  induction xs with
  | nil => simp [get?]
  | cons entry rest ih =>
    rw [List.cons_append, get?, get?]
    split_ifs
    · simp
    · exact ih

/-! ## Distinct names -/

theorem get?_map {β : Type} (f : α → β) (entries : Entries α) (key : String) :
    get? (entries.map fun entry => (entry.1, f entry.2)) key = (get? entries key).map f := by
  induction entries with
  | nil => rfl
  | cons entry rest ih =>
    rw [List.map_cons, get?, get?]
    split_ifs
    · rfl
    · exact ih

theorem names_append (xs ys : Entries α) : names (xs ++ ys) = names xs ++ names ys :=
  List.map_append

theorem Distinct.perm {xs ys : Entries α} (h : Distinct xs) (p : xs.Perm ys) : Distinct ys :=
  (p.map Prod.fst).nodup_iff.mp h

theorem Distinct.put {entries : Entries α} (h : Distinct entries) (key : String) (value : α) :
    Distinct (put entries key value) := by
  rw [Distinct, names_put]
  split_ifs with hk
  · exact h
  · exact List.nodup_append'.mpr ⟨h, List.nodup_singleton _,
      List.disjoint_singleton.mpr hk⟩

theorem Distinct.erase {entries : Entries α} (h : Distinct entries) (key : String) :
    Distinct (erase entries key) :=
  h.sublist (List.filter_sublist.map _)

theorem Distinct.overlay {lower : Entries α} (h : Distinct lower) (upper : Entries α) :
    Distinct (overlay lower upper) := by
  induction upper generalizing lower with
  | nil => exact h
  | cons entry rest ih =>
    rw [overlay_cons]
    exact ih (h.put _ _)

theorem distinct_ofPairs (pairs : List (String × α)) : Distinct (ofPairs pairs) :=
  distinct_nil.overlay pairs

/-- A new name comes last. -/
theorem put_of_not_mem {entries : Entries α} {key : String} (h : key ∉ names entries) (value : α) :
    put entries key value = entries ++ [(key, value)] := by
  induction entries with
  | nil => rfl
  | cons entry rest ih =>
    have hk : entry.1 ≠ key := fun e => h (List.mem_cons.mpr (.inl e.symm))
    rw [put, if_neg hk, ih fun hm => h (List.mem_cons_of_mem _ hm), List.cons_append]

/-- A value that is stored back undoes what was stored over it. -/
theorem put_put_of_get? {entries : Entries α} {key : String} {old : α}
    (h : get? entries key = some old) (value : α) : put (put entries key value) key old = entries := by
  induction entries with
  | nil => cases h
  | cons entry rest ih =>
    rw [get?] at h
    rw [put]
    split_ifs at h ⊢ with hk
    · cases h
      rw [put, if_pos hk]
    · rw [put, if_neg hk, ih h]

theorem overlay_of_distinct {lower upper : Entries α} (h : Distinct (lower ++ upper)) :
    overlay lower upper = lower ++ upper := by
  induction upper generalizing lower with
  | nil => exact (List.append_nil lower).symm
  | cons entry rest ih =>
    have hnew : entry.1 ∉ names lower := by
      intro hm
      rw [Distinct, names_append] at h
      exact (List.disjoint_of_nodup_append h) hm List.mem_cons_self
    rw [List.append_cons] at h ⊢
    rw [overlay_cons, put_of_not_mem hnew, ih h]

/-- Pairs with distinct names are the entries for them. -/
theorem ofPairs_of_distinct {entries : Entries α} (h : Distinct entries) :
    ofPairs entries = entries := overlay_of_distinct h

theorem mem_names_overlay_of_lower {lower upper : Entries α} {name : String}
    (h : name ∈ names lower) : name ∈ names (overlay lower upper) := by
  induction upper generalizing lower with
  | nil => exact h
  | cons entry rest ih =>
    rw [overlay_cons]
    apply ih
    rw [names_put]
    split_ifs
    · exact h
    · exact List.mem_append_left _ h

/-! ## What entries hold -/

theorem mem_put {entries : Entries α} {key : String} {value : α} {entry : String × α}
    (h : entry ∈ put entries key value) : entry = (key, value) ∨ entry ∈ entries := by
  induction entries with
  | nil => exact .inl (List.mem_singleton.mp h)
  | cons first rest ih =>
    rw [put] at h
    split_ifs at h with hk
    · rcases List.mem_cons.mp h with rfl | hm
      · exact .inl (by rw [hk])
      · exact .inr (List.mem_cons_of_mem _ hm)
    · rcases List.mem_cons.mp h with rfl | hm
      · exact .inr List.mem_cons_self
      · exact (ih hm).imp_right (List.mem_cons_of_mem _)

theorem mem_overlay {lower upper : Entries α} {entry : String × α}
    (h : entry ∈ overlay lower upper) : entry ∈ lower ∨ entry ∈ upper := by
  induction upper generalizing lower with
  | nil => exact .inl h
  | cons first rest ih =>
    rw [overlay_cons] at h
    rcases ih h with hl | hr
    · rcases mem_put hl with rfl | hl
      · exact .inr List.mem_cons_self
      · exact .inl hl
    · exact .inr (List.mem_cons_of_mem _ hr)

theorem mem_of_mem_erase {entries : Entries α} {key : String} {entry : String × α}
    (h : entry ∈ erase entries key) : entry ∈ entries := (List.mem_filter.mp h).1

theorem perm_of_get?_eq {xs ys : Entries α} (hx : Distinct xs) (hy : Distinct ys)
    (h : ∀ key, get? xs key = get? ys key) : xs.Perm ys := by
  refine (List.perm_ext_iff_of_nodup hx.of_map hy.of_map).mpr fun entry => ?_
  rw [← get?_eq_some_iff hx, ← get?_eq_some_iff hy, h]

end Entries

/-! ## Sorted by name -/

theorem textLe_total (a b : String) : textLe a b || textLe b a := by
  simpa [textLe] using String.le_total a b

theorem textLe_trans (a b c : String) (h : textLe a b) (h' : textLe b c) : textLe a c := by
  simp only [textLe, decide_eq_true_eq] at h h' ⊢
  exact String.le_trans h h'

namespace Entries

variable {α β : Type}

/-- No name comes before the first one. -/
theorem textLe_of_get? {x : String × α} {xs : Entries α}
    (h : (x :: xs).Pairwise fun a b => textLe a.1 b.1) {name : String} {value : α}
    (hget : get? (x :: xs) name = some value) : textLe x.1 name = true := by
  rcases List.mem_cons.mp (mem_of_get? hget) with he | hm
  · rw [← he]
    simp [textLe]
  · exact List.rel_of_pairwise_cons h hm

section

variable {R : α → β → Prop} {x : String × α} {y : String × β} {xs : Entries α} {ys : Entries β}

/-- The first names are the same, since each occurs on the other side and stands there behind none
    that comes before it. -/
theorem first_of_rel_get? (hx : Distinct (x :: xs))
    (hxo : (x :: xs).Pairwise fun a b => textLe a.1 b.1) (hy : Distinct (y :: ys))
    (hyo : (y :: ys).Pairwise fun a b => textLe a.1 b.1)
    (h : ∀ name, Option.Rel R (get? (x :: xs) name) (get? (y :: ys) name)) :
    x.1 = y.1 ∧ R x.2 y.2 := by
  have hatx := h x.1
  have haty := h y.1
  rw [get?_of_mem hx List.mem_cons_self] at hatx
  rw [get?_of_mem hy List.mem_cons_self] at haty
  have hxy : x.1 = y.1 := by
    generalize hfx : get? (y :: ys) x.1 = fx at hatx
    generalize hfy : get? (x :: xs) y.1 = fy at haty
    cases hatx
    cases haty
    have hle := textLe_of_get? hxo hfy
    have hge := textLe_of_get? hyo hfx
    simp only [textLe, decide_eq_true_eq] at hle hge
    exact String.le_antisymm hle hge
  rw [hxy, get?_of_mem hy List.mem_cons_self] at hatx
  cases hatx with
  | some hvalue => exact ⟨hxy, hvalue⟩

/-- Entries in the order of their names can be compared one after the other. -/
theorem forall₂_iff_rel_get? (hx : Distinct xs) (hxo : xs.Pairwise fun a b => textLe a.1 b.1)
    (hy : Distinct ys) (hyo : ys.Pairwise fun a b => textLe a.1 b.1) :
    List.Forall₂ (fun x y => x.1 = y.1 ∧ R x.2 y.2) xs ys ↔
      ∀ name, Option.Rel R (get? xs name) (get? ys name) := by
  constructor
  · intro h name
    clear hx hxo hy hyo
    induction h with
    | nil => exact .none
    | cons hxy _ ih =>
      rw [get?, get?, ← hxy.1]
      split_ifs
      · exact .some hxy.2
      · exact ih
  · intro h
    induction xs generalizing ys with
    | nil =>
      cases ys with
      | nil => exact .nil
      | cons y ys =>
        have hname := h y.1
        rw [get?_of_mem hy List.mem_cons_self] at hname
        cases hname
    | cons x xs ih =>
      cases ys with
      | nil =>
        have hname := h x.1
        rw [get?_of_mem hx List.mem_cons_self] at hname
        cases hname
      | cons y ys =>
        obtain ⟨hxnew, hxs⟩ := distinct_cons_iff.mp hx
        obtain ⟨hynew, hys⟩ := distinct_cons_iff.mp hy
        obtain ⟨hxy, hvalue⟩ := first_of_rel_get? hx hxo hy hyo h
        refine .cons ⟨hxy, hvalue⟩ (ih hxs hxo.of_cons hys hyo.of_cons fun name => ?_)
        by_cases hname : x.1 = name
        · subst hname
          rw [get?_eq_none_iff.mpr hxnew, get?_eq_none_iff.mpr (hxy ▸ hynew)]
          exact .none
        · have hrest := h name
          rwa [get?, if_neg hname, get?, if_neg (hxy ▸ hname)] at hrest

end

end Entries

namespace Json

theorem sortMembers_perm (members : List (String × Json)) :
    (sortMembers members).Perm members := sortBy_perm _ members

theorem pairwise_sortMembers (members : List (String × Json)) :
    (sortMembers members).Pairwise fun a b => textLe a.1 b.1 := by
  have total (a b : String × Json) : (textLe a.1 b.1 || textLe b.1 a.1) = true :=
    textLe_total a.1 b.1
  have trans (a b c : String × Json) : textLe a.1 b.1 → textLe b.1 c.1 → textLe a.1 c.1 :=
    textLe_trans a.1 b.1 c.1
  exact pairwise_sortBy total trans members

theorem sortMembers_of_pairwise {members : List (String × Json)}
    (h : members.Pairwise fun a b => textLe a.1 b.1) : sortMembers members = members :=
  sortBy_of_pairwise h

theorem sortMembers_map (f : Json → Json) (members : List (String × Json)) :
    sortMembers (members.map fun member => (member.1, f member.2)) =
      (sortMembers members).map fun member => (member.1, f member.2) :=
  sortBy_map _ _ members

theorem sortMembers_eq_of_perm {xs ys : List (String × Json)} (hx : Entries.Distinct xs)
    (p : xs.Perm ys) : sortMembers xs = sortMembers ys := by
  have hp : (sortMembers xs).Perm (sortMembers ys) :=
    (sortMembers_perm xs).trans (p.trans (sortMembers_perm ys).symm)
  refine List.Perm.eq_of_pairwise ?_ (pairwise_sortMembers xs) (pairwise_sortMembers ys) hp
  intro a b ha hb hab hba
  have hd : Entries.Distinct (sortMembers xs) := hx.perm (sortMembers_perm xs).symm
  -- equal names stand beside equal values, since the names are distinct
  have hn : a.1 = b.1 := by
    simp only [textLe, decide_eq_true_eq] at hab hba
    exact String.le_antisymm hab hba
  have hva : Entries.get? (sortMembers xs) a.1 = some a.2 := Entries.get?_of_mem hd ha
  have hvb : Entries.get? (sortMembers xs) b.1 = some b.2 :=
    Entries.get?_of_mem hd (hp.mem_iff.mpr hb)
  rw [hn, hvb] at hva
  exact Prod.ext hn (Option.some.inj hva).symm

theorem distinct_sortMembers {members : List (String × Json)} (h : Entries.Distinct members) :
    Entries.Distinct (sortMembers members) := h.perm (sortMembers_perm members).symm

end Json

end AlbListener

import AlbListener.Json.Access
import AlbListener.Proofs.Alike
import AlbListener.Proofs.Json
import AlbListener.Proofs.Json.RoundTrip

/-!
# Values with reordered members

Two values that differ only in the order in which objects, at any depth, have their members become
the same when the members are sorted (`Reordered`). Taking such values apart ends alike, with values
of which the same holds, and they are the same as the same values.

Results:
* `sorted_sorted`, `sorted_distinct`, `sorted_floatless`: values with sorted members.
* `reordered_obj_iff`: reordered objects have reordered values under the same names.
* `Reordered.getD`, `Reordered.member`, `Reordered.first`: steps that take a value apart.
* `Reordered.same_left`, `Reordered.same_right`: what reordered values are the same as.
-/

namespace AlbListener

/-- Entries with distinct names in another order give the same values. -/
theorem Entries.get?_eq_of_perm {α : Type} {xs ys : Entries α} (hx : Entries.Distinct xs)
    (p : xs.Perm ys) (name : String) : Entries.get? xs name = Entries.get? ys name := by
  refine Option.ext fun value => ?_
  rw [get?_eq_some_iff hx, get?_eq_some_iff (hx.perm p), p.mem_iff]

namespace Json

variable {a b : Json} {name : String}

/-! ## Sorted members -/

theorem sortedAll_eq_map (elements : List Json) : sortedAll elements = elements.map sorted := by
  induction elements with
  | nil => rfl
  | cons element rest ih => rw [sortedAll, ih, List.map_cons]

theorem sortedMembers_eq_map (members : List (String × Json)) :
    sortedMembers members = members.map fun member => (member.1, member.2.sorted) := by
  induction members with
  | nil => rfl
  | cons member rest ih => rw [sortedMembers, ih, List.map_cons]

theorem sorted_arr (elements : List Json) : (arr elements).sorted = arr (elements.map sorted) := by
  rw [sorted, sortedAll_eq_map]

theorem sorted_obj (members : List (String × Json)) : (obj members).sorted =
    obj (sortMembers (members.map fun member => (member.1, member.2.sorted))) := by
  rw [sorted, sortedMembers_eq_map]

theorem sorted_of_not_isCompound (h : a.isCompound = false) : a.sorted = a := by
  cases a <;> first | rfl | cases h

theorem kind_sorted (value : Json) : value.sorted.kind = value.kind := by
  cases value <;> rfl

theorem sorted_sorted (value : Json) : value.sorted.sorted = value.sorted := by
  induction value using parts_induction with
  | plain value h => rw [sorted_of_not_isCompound h, sorted_of_not_isCompound h]
  | arr elements ih =>
    rw [sorted_arr, sorted_arr, List.map_map]
    exact congrArg arr (List.map_congr_left ih)
  | obj members ih =>
    have hvalues : (members.map fun member => (member.1, member.2.sorted.sorted)) =
        members.map fun member => (member.1, member.2.sorted) :=
      List.map_congr_left fun member hm => by rw [ih member hm]
    rw [sorted_obj, sorted_obj, ← sortMembers_map, List.map_map]
    show obj (sortMembers (sortMembers (members.map fun member => (member.1, member.2.sorted.sorted)))) = _
    rw [hvalues, sortMembers_of_pairwise (pairwise_sortMembers _)]

theorem distinct_mapValues {members : List (String × Json)} (f : Json → Json)
    (h : Entries.Distinct members) :
    Entries.Distinct (members.map fun member => (member.1, f member.2)) := by
  rw [Entries.Distinct, Entries.names, List.map_map]
  exact h

theorem mem_sortMembers_map_iff {members : List (String × Json)} {f : Json → Json}
    {member : String × Json} :
    member ∈ sortMembers (members.map fun member => (member.1, f member.2)) ↔
      ∃ given ∈ members, (given.1, f given.2) = member := by
  rw [(sortMembers_perm _).mem_iff, List.mem_map]

theorem sorted_distinct (h : a.Distinct) : a.sorted.Distinct := by
  induction h with
  | plain h =>
    rw [sorted_of_not_isCompound h]
    exact .plain h
  | arr _ ih =>
    rw [sorted_arr]
    refine .arr fun element hm => ?_
    obtain ⟨given, hg, rfl⟩ := List.mem_map.mp hm
    exact ih given hg
  | obj hn _ ih =>
    rw [sorted_obj]
    refine .obj (distinct_sortMembers (distinct_mapValues sorted hn)) fun member hm => ?_
    obtain ⟨given, hg, rfl⟩ := mem_sortMembers_map_iff.mp hm
    exact ih given hg

theorem sorted_floatless (h : a.Floatless) : a.sorted.Floatless := by
  induction h with
  | plain h hf =>
    rw [sorted_of_not_isCompound h]
    exact .plain h hf
  | arr _ ih =>
    rw [sorted_arr]
    refine .arr fun element hm => ?_
    obtain ⟨given, hg, rfl⟩ := List.mem_map.mp hm
    exact ih given hg
  | obj _ ih =>
    rw [sorted_obj]
    refine .obj fun member hm => ?_
    obtain ⟨given, hg, rfl⟩ := mem_sortMembers_map_iff.mp hm
    exact ih given hg

theorem get?_sorted {members : List (String × Json)} (h : Entries.Distinct members)
    (name : String) :
    Entries.get? (sortMembers (members.map fun member => (member.1, member.2.sorted))) name =
      (Entries.get? members name).map sorted := by
  rw [← Entries.get?_map]
  exact (Entries.get?_eq_of_perm (distinct_mapValues sorted h) (sortMembers_perm _).symm name).symm

/-! ## Reordered values -/

/-- Values that differ only in the order of members. -/
structure Reordered (a b : Json) : Prop where
  left : a.Distinct
  right : b.Distinct
  sorted : a.sorted = b.sorted

namespace Reordered

theorem refl (h : a.Distinct) : Reordered a a := ⟨h, h, rfl⟩

theorem symm (h : Reordered a b) : Reordered b a := ⟨h.right, h.left, h.sorted.symm⟩

theorem trans {c : Json} (h : Reordered a b) (h' : Reordered b c) : Reordered a c :=
  ⟨h.left, h'.right, h.sorted.trans h'.sorted⟩

theorem kind (h : Reordered a b) : a.kind = b.kind := by
  rw [← kind_sorted a, h.sorted, kind_sorted]

end Reordered

theorem reordered_sorted (h : a.Distinct) : Reordered a a.sorted :=
  ⟨h, sorted_distinct h, (sorted_sorted a).symm⟩

theorem reordered_arr_iff {xs ys : List Json} :
    Reordered (arr xs) (arr ys) ↔ List.Forall₂ Reordered xs ys := by
  constructor
  · rintro ⟨hx, hy, h⟩
    rw [distinct_arr_iff] at hx hy
    rw [sorted_arr, sorted_arr, Json.arr.injEq] at h
    induction xs generalizing ys with
    | nil =>
      cases ys with
      | nil => exact .nil
      | cons => cases h
    | cons x xs ih =>
      cases ys with
      | nil => cases h
      | cons y ys =>
        obtain ⟨hx, hxs⟩ := List.forall_mem_cons.mp hx
        obtain ⟨hy, hys⟩ := List.forall_mem_cons.mp hy
        rw [List.map_cons, List.map_cons, List.cons.injEq] at h
        exact .cons ⟨hx, hy, h.1⟩ (ih hxs hys h.2)
  · intro h
    refine ⟨.arr fun x hx => ?_, .arr fun y hy => ?_, ?_⟩
    · induction h with
      | nil => cases hx
      | cons h _ ih =>
        rcases List.mem_cons.mp hx with rfl | hx
        · exact h.left
        · exact ih hx
    · induction h with
      | nil => cases hy
      | cons h _ ih =>
        rcases List.mem_cons.mp hy with rfl | hy
        · exact h.right
        · exact ih hy
    · rw [sorted_arr, sorted_arr]
      induction h with
      | nil => rfl
      | cons h _ ih => rw [List.map_cons, List.map_cons, h.sorted, Json.arr.inj ih]

theorem get?_distinct {members : List (String × Json)} {value : Json}
    (h : (obj members).Distinct) (hv : Entries.get? members name = some value) : value.Distinct :=
  (distinct_obj_iff.mp h).2 _ (Entries.mem_of_get? hv)

/-- Reordered objects have reordered values under the same names. -/
theorem reordered_obj_iff {xs ys : List (String × Json)} :
    Reordered (obj xs) (obj ys) ↔ Entries.Distinct xs ∧ Entries.Distinct ys ∧
      ∀ name, Option.Rel Reordered (Entries.get? xs name) (Entries.get? ys name) := by
  constructor
  · rintro ⟨hx, hy, h⟩
    have hxs := (distinct_obj_iff.mp hx).1
    have hys := (distinct_obj_iff.mp hy).1
    rw [sorted_obj, sorted_obj, Json.obj.injEq] at h
    refine ⟨hxs, hys, fun name => ?_⟩
    have hname : (Entries.get? xs name).map sorted = (Entries.get? ys name).map sorted := by
      rw [← get?_sorted hxs, h, get?_sorted hys]
    cases hxn : Entries.get? xs name with
    | none =>
      cases hyn : Entries.get? ys name with
      | none => exact .none
      | some y => rw [hxn, hyn] at hname; cases hname
    | some x =>
      cases hyn : Entries.get? ys name with
      | none => rw [hxn, hyn] at hname; cases hname
      | some y =>
        rw [hxn, hyn, Option.map_some, Option.map_some, Option.some.injEq] at hname
        exact .some ⟨get?_distinct hx hxn, get?_distinct hy hyn, hname⟩
  · rintro ⟨hxs, hys, h⟩
    refine ⟨.obj hxs fun member hm => ?_, .obj hys fun member hm => ?_, ?_⟩
    · have hname := h member.1
      rw [Entries.get?_of_mem hxs hm] at hname
      generalize Entries.get? ys member.1 = found at hname
      cases hname with
      | some h => exact h.left
    · have hname := h member.1
      rw [Entries.get?_of_mem hys hm] at hname
      generalize Entries.get? xs member.1 = found at hname
      cases hname with
      | some h => exact h.right
    · rw [sorted_obj, sorted_obj]
      refine congrArg obj (sortMembers_eq_of_perm (distinct_mapValues sorted hxs)
        (Entries.perm_of_get?_eq (distinct_mapValues sorted hxs) (distinct_mapValues sorted hys)
          fun name => ?_))
      have hname := h name
      rw [Entries.get?_map, Entries.get?_map]
      generalize Entries.get? xs name = x, Entries.get? ys name = y at hname ⊢
      cases hname with
      | none => rfl
      | some h => rw [Option.map_some, Option.map_some, h.sorted]

/-- Of reordered values both are the same, both are arrays or both are objects. -/
theorem Reordered.cases (h : Reordered a b) :
    (a = b ∧ a.isCompound = false) ∨
      (∃ xs ys, a = arr xs ∧ b = arr ys ∧ List.Forall₂ Reordered xs ys) ∨
      ∃ xs ys, a = obj xs ∧ b = obj ys ∧ Entries.Distinct xs ∧ Entries.Distinct ys ∧
        ∀ name, Option.Rel Reordered (Entries.get? xs name) (Entries.get? ys name) := by
  have hkind := h.kind
  cases a with
  | arr xs =>
    cases b with
    | arr ys => exact .inr (.inl ⟨xs, ys, rfl, rfl, reordered_arr_iff.mp h⟩)
    | _ => cases hkind
  | obj xs =>
    cases b with
    | obj ys => exact .inr (.inr ⟨xs, ys, rfl, rfl, reordered_obj_iff.mp h⟩)
    | _ => cases hkind
  | _ =>
    refine .inl ⟨?_, rfl⟩
    cases b <;> first | exact h.sorted | cases hkind

theorem Reordered.eq_of_plain (h : Reordered a b) (hp : a.isCompound = false) : a = b := by
  rcases h.cases with ⟨rfl, -⟩ | ⟨xs, ys, rfl, -⟩ | ⟨xs, ys, rfl, -⟩
  · rfl
  · cases hp
  · cases hp

/-- What stands for an object whose members are reordered. -/
theorem Reordered.exists_obj {members : List (String × Json)} (h : Reordered (.obj members) b) :
    ∃ members', b = .obj members' := by
  rcases h.cases with ⟨-, hp⟩ | ⟨_, _, ha, -⟩ | ⟨_, members', -, hb, -⟩
  · cases hp
  · cases ha
  · exact ⟨members', hb⟩

/-- What stands for an array whose elements are reordered. -/
theorem Reordered.exists_arr {elements : List Json} (h : Reordered (.arr elements) b) :
    ∃ elements', b = .arr elements' ∧ List.Forall₂ Reordered elements elements' := by
  rcases h.cases with ⟨-, hp⟩ | ⟨_, elements', ha, hb, hall⟩ | ⟨_, _, ha, -⟩
  · cases hp
  · cases ha
    exact ⟨elements', hb, hall⟩
  · cases ha

/-- A value among reordered members, and what stands for it. -/
theorem Reordered.exists_value {members members' : List (String × Json)} {name : String}
    {value : Json} (h : Reordered (.obj members) (.obj members'))
    (hv : Entries.get? members name = some value) :
    ∃ value', Entries.get? members' name = some value' ∧ Reordered value value' := by
  have hname := (reordered_obj_iff.mp h).2.2 name
  rw [hv] at hname
  generalize Entries.get? members' name = found at hname
  cases hname with
  | some h => exact ⟨_, rfl, h⟩

/-- An element among reordered elements, and what stands for it. -/
theorem Reordered.exists_element {elements elements' : List Json}
    (h : List.Forall₂ Reordered elements elements') {element : Json} (hm : element ∈ elements) :
    ∃ element' ∈ elements', Reordered element element' := by
  induction h with
  | nil => cases hm
  | cons hab _ ih =>
    rcases List.mem_cons.mp hm with rfl | hm
    · exact ⟨_, List.mem_cons_self, hab⟩
    · obtain ⟨element', hm', h⟩ := ih hm
      exact ⟨element', List.mem_cons_of_mem _ hm', h⟩

/-! ## Taking reordered values apart -/

namespace Reordered

theorem isTruthy (h : Reordered a b) : a.isTruthy = b.isTruthy := by
  rcases h.cases with ⟨rfl, -⟩ | ⟨xs, ys, rfl, rfl, hxy⟩ | ⟨xs, ys, rfl, rfl, hx, hy, hxy⟩
  · rfl
  · cases hxy <;> rfl
  · cases xs with
    | nil =>
      cases ys with
      | nil => rfl
      | cons y ys =>
        have hname := hxy y.1
        rw [Entries.get?_of_mem hy List.mem_cons_self] at hname
        cases hname
    | cons x xs =>
      cases ys with
      | nil =>
        have hname := hxy x.1
        rw [Entries.get?_of_mem hx List.mem_cons_self] at hname
        cases hname
      | cons y ys => rfl

theorem isNull (h : Reordered a b) : a.isNull = b.isNull := by
  rcases h.cases with ⟨rfl, -⟩ | ⟨xs, ys, rfl, rfl, -⟩ | ⟨xs, ys, rfl, rfl, -⟩ <;> rfl

theorem isCompound (h : Reordered a b) : a.isCompound = b.isCompound := by
  rcases h.cases with ⟨rfl, -⟩ | ⟨xs, ys, rfl, rfl, -⟩ | ⟨xs, ys, rfl, rfl, -⟩ <;> rfl

theorem orElse {c d : Json} (h : Reordered a b) (h' : Reordered c d) :
    Reordered (a.orElse c) (b.orElse d) := by
  unfold Json.orElse
  rw [h.isTruthy]
  split_ifs
  · exact h
  · exact h'

theorem get (h : Reordered a b) (name : String) :
    Alike Eq (Option.Rel Reordered) (a.get name) (b.get name) := by
  rcases h.cases with ⟨rfl, hp⟩ | ⟨xs, ys, rfl, rfl, -⟩ | ⟨xs, ys, rfl, rfl, -, -, hxy⟩
  · cases a <;> first | exact .error rfl | cases hp
  · exact .error rfl
  · exact .ok (hxy name)

/-- Values under a name, or others if there are none. -/
theorem rel_getD {x y : Option Json} {c d : Json}
    (h : Option.Rel Reordered x y) (h' : Reordered c d) : Reordered (x.getD c) (y.getD d) := by
  cases h with
  | none => exact h'
  | some h => exact h

theorem getD {c d : Json} (h : Reordered a b) (h' : Reordered c d) (name : String) :
    Alike Eq Reordered (a.getD name c) (b.getD name d) :=
  (h.get name).bind fun _ _ hxy => .ok (rel_getD hxy h')

theorem member (h : Reordered a b) (name : String) :
    Alike Eq Reordered (a.member name) (b.member name) := by
  rcases h.cases with ⟨rfl, hp⟩ | ⟨xs, ys, rfl, rfl, -⟩ | ⟨xs, ys, rfl, rfl, -, -, hxy⟩
  · cases a <;> first | exact .error rfl | cases hp
  · exact .error rfl
  · have hname := hxy name
    rw [Json.member, Json.member]
    generalize Entries.get? xs name = x, Entries.get? ys name = y at hname
    cases hname with
    | none => exact .error rfl
    | some h => exact .ok h

theorem size (h : Reordered a b) : a.size = b.size := by
  rcases h.cases with ⟨rfl, -⟩ | ⟨xs, ys, rfl, rfl, hxy⟩ | ⟨xs, ys, rfl, rfl, -⟩
  · rfl
  · rw [Json.size, Json.size, hxy.length_eq]
  · have hsorted := h.sorted
    rw [sorted_obj, sorted_obj, Json.obj.injEq] at hsorted
    have hlength := congrArg List.length hsorted
    rw [(sortMembers_perm _).length_eq, (sortMembers_perm _).length_eq, List.length_map,
      List.length_map] at hlength
    rw [Json.size, Json.size, hlength]

theorem first (h : Reordered a b) : Alike Eq Reordered a.first b.first := by
  rcases h.cases with ⟨rfl, hp⟩ | ⟨xs, ys, rfl, rfl, hxy⟩ | ⟨xs, ys, rfl, rfl, -⟩
  · cases a with
    | str s =>
      rw [Json.first]
      cases s.toList with
      | nil => exact .error rfl
      | cons c cs => exact .ok (.refl (distinct_str _))
    | arr => cases hp
    | obj => cases hp
    | _ => exact .error rfl
  · cases hxy with
    | nil => exact .error rfl
    | cons hxy _ => exact .ok hxy
  · exact .error rfl

theorem toInteger (h : Reordered a b) : a.toInteger = b.toInteger := by
  rcases h.cases with ⟨rfl, -⟩ | ⟨xs, ys, rfl, rfl, -⟩ | ⟨xs, ys, rfl, rfl, -⟩ <;> rfl

end Reordered

/-! ## Sameness -/

theorem sameAll_map {f g : Json → Json} {xs ys : List Json}
    (h : ∀ x ∈ xs, ∀ y ∈ ys, (f x).same (g y) = x.same y) :
    sameAll (xs.map f) (ys.map g) = sameAll xs ys := by
  induction xs generalizing ys with
  | nil => cases ys <;> rfl
  | cons x xs ih =>
    cases ys with
    | nil => rfl
    | cons y ys =>
      rw [List.map_cons, List.map_cons, sameAll, sameAll,
        h x List.mem_cons_self y List.mem_cons_self,
        ih fun x hx y hy => h x (List.mem_cons_of_mem _ hx) y (List.mem_cons_of_mem _ hy)]

/-- Sorting the members of a value does not change what it is the same as. -/
theorem sorted_same (a b : Json) : a.sorted.same b = a.same b := by
  induction a using parts_induction generalizing b with
  | plain value h => rw [sorted_of_not_isCompound h]
  | arr elements ih =>
    rw [sorted_arr]
    cases b with
    | arr others =>
      have : sameAll (elements.map sorted) (others.map id) = sameAll elements others :=
        sameAll_map fun x hx y _ => ih x hx y
      rwa [List.map_id] at this
    | _ => rfl
  | obj members ih =>
    rw [sorted_obj]
    cases b with
    | obj others =>
      have hmembers : sameMembers (sortMembers (members.map fun member =>
          (member.1, member.2.sorted))) others = sameMembers members others := by
        rw [Bool.eq_iff_iff, sameMembers_eq_true_iff, sameMembers_eq_true_iff]
        constructor
        · intro h member hm
          obtain ⟨value, hv, hsame⟩ := h _ (mem_sortMembers_map_iff.mpr ⟨member, hm, rfl⟩)
          exact ⟨value, hv, (ih member hm value).symm.trans hsame⟩
        · intro h member hm
          obtain ⟨given, hg, rfl⟩ := mem_sortMembers_map_iff.mp hm
          obtain ⟨value, hv, hsame⟩ := h given hg
          exact ⟨value, hv, (ih given hg value).trans hsame⟩
      rw [same, same, hmembers, (sortMembers_perm _).length_eq, List.length_map]
    | _ => rfl

theorem same_sorted (a : Json) {b : Json} (h : b.Distinct) : a.same b.sorted = a.same b := by
  induction h generalizing a with
  | plain h => rw [sorted_of_not_isCompound h]
  | arr _ ih =>
    rename_i elements _
    rw [sorted_arr]
    cases a with
    | arr others =>
      have : sameAll (others.map id) (elements.map sorted) = sameAll others elements :=
        sameAll_map fun x _ y hy => ih y hy x
      rwa [List.map_id] at this
    | _ => rfl
  | obj hn _ ih =>
    rename_i members _
    rw [sorted_obj]
    cases a with
    | obj others =>
      have hmembers : sameMembers others (sortMembers (members.map fun member =>
          (member.1, member.2.sorted))) = sameMembers others members := by
        rw [Bool.eq_iff_iff, sameMembers_eq_true_iff, sameMembers_eq_true_iff]
        refine forall₂_congr fun member _ => ?_
        rw [get?_sorted hn]
        cases hv : Entries.get? members member.1 with
        | none => simp
        | some value => simp [ih _ (Entries.mem_of_get? hv)]
      rw [same, same, hmembers, (sortMembers_perm _).length_eq, List.length_map]
    | _ => rfl

namespace Reordered

theorem same_left (h : Reordered a b) (c : Json) : a.same c = b.same c := by
  rw [← sorted_same, h.sorted, sorted_same]

theorem same_right (h : Reordered a b) (c : Json) : c.same a = c.same b := by
  rw [← same_sorted c h.left, h.sorted, same_sorted c h.right]

theorem equals (h : Reordered a b) (c : Json) : a.equals c = b.equals c := by
  have hnan : a.isNaN = b.isNaN := by
    rcases h.cases with ⟨rfl, -⟩ | ⟨xs, ys, rfl, rfl, -⟩ | ⟨xs, ys, rfl, rfl, -⟩ <;> rfl
  rw [Json.equals, Json.equals, hnan, h.same_left]

theorem mentions (h : Reordered a b) (name : String) : a.mentions name = b.mentions name := by
  rcases h.cases with ⟨rfl, -⟩ | ⟨xs, ys, rfl, rfl, hxy⟩ | ⟨xs, ys, rfl, rfl, -, -, hxy⟩
  · rfl
  · refine congrArg Except.ok ?_
    induction hxy with
    | nil => rfl
    | cons hxy _ ih => rw [List.any_cons, List.any_cons, hxy.same_left, ih (reordered_arr_iff.mpr ‹_›)]
  · have hname := hxy name
    rw [Json.mentions, Json.mentions, Entries.has, Entries.has]
    generalize Entries.get? xs name = x, Entries.get? ys name = y at hname
    cases hname <;> rfl

/-- Reordered values are put in order alike. -/
theorem less? {c d : Json} (h : Reordered a b) (h' : Reordered c d) : a.less? c = b.less? d := by
  induction a using parts_induction generalizing b c d with
  | plain a hp =>
    obtain rfl := h.eq_of_plain hp
    rcases h'.cases with ⟨rfl, -⟩ | ⟨xs, ys, rfl, rfl, -⟩ | ⟨xs, ys, rfl, rfl, -⟩
    · rfl
    · cases a <;> first | rfl | cases hp
    · cases a <;> rfl
  | obj members _ =>
    rcases h.cases with ⟨-, hp⟩ | ⟨_, _, hx, -⟩ | ⟨xs, ys, -, rfl, -⟩
    · cases hp
    · cases hx
    · rcases h'.cases with ⟨rfl, -⟩ | ⟨us, vs, rfl, rfl, -⟩ | ⟨us, vs, rfl, rfl, -⟩ <;> rfl
  | arr elements ih =>
    rcases h.cases with ⟨-, hp⟩ | ⟨xs, ys, hx, rfl, hxy⟩ | ⟨_, _, hx, -⟩
    · cases hp
    · cases hx
      rcases h'.cases with ⟨rfl, hp⟩ | ⟨us, vs, rfl, rfl, huv⟩ | ⟨us, vs, rfl, rfl, -⟩
      · cases c <;> first | rfl | cases hp
      · -- the first elements that differ decide, and they are at the same place
        show Json.less?.lessAll elements us = Json.less?.lessAll ys vs
        clear h h'
        induction hxy generalizing us vs with
        | nil => cases huv <;> rfl
        | cons hxy _ ih' =>
          cases huv with
          | nil => rfl
          | cons huv hrest =>
            rw [Json.less?.lessAll, Json.less?.lessAll, hxy.same_left, huv.same_right,
              ih' (fun x hx => ih x (List.mem_cons_of_mem _ hx)) _ _ hrest,
              ih _ List.mem_cons_self hxy huv]
      · rfl
    · cases hx

/-! ## Members -/

/-- Reordered values are sequences alike, of values of the same sorts. -/
theorem elements_kind (h : Reordered a b) :
    Alike Eq (List.Forall₂ fun x y => x.kind = y.kind) a.elements b.elements := by
  have hsize := h.size
  rcases h.cases with ⟨rfl, -⟩ | ⟨xs, ys, rfl, rfl, hxy⟩ | ⟨xs, ys, rfl, rfl, -⟩
  · refine .refl (fun _ => rfl) (fun values => ?_) _
    exact List.forall₂_same.mpr fun _ _ => rfl
  · exact .ok (hxy.imp fun _ _ h => h.kind)
  · rw [Json.size, Json.size, Except.ok.injEq] at hsize
    refine .ok ?_
    clear h
    induction xs generalizing ys with
    | nil =>
      rw [List.length_eq_zero_iff.mp hsize.symm]
      exact .nil
    | cons x xs ih =>
      cases ys with
      | nil => cases hsize
      | cons y ys => exact .cons rfl (ih ys (Nat.succ.inj hsize))

theorem pair (h : Reordered a b) (index : ℕ) :
    Alike Eq (fun p q => p.1.kind = q.1.kind) (a.pair index) (b.pair index) := by
  have helements := h.elements_kind
  unfold Json.pair
  generalize a.elements = x, b.elements = y at helements
  cases helements with
  | error _ => exact .error rfl
  | ok hxy =>
    have hlength := hxy.length_eq
    match hxy with
    | .nil => exact .error (by rw [hlength])
    | .cons _ .nil => exact .error (by rw [hlength])
    | .cons h (.cons _ .nil) => exact .ok h
    | .cons _ (.cons _ (.cons _ _)) => exact .error (by rw [hlength])

theorem pairs {xs ys : List Json} (h : List.Forall₂ Reordered xs ys) (index : ℕ) :
    Alike Eq (List.Forall₂ fun p q => p.1.kind = q.1.kind) (Json.pairs index xs)
      (Json.pairs index ys) := by
  have hcompound {x y : Json} (h : x.kind = y.kind) : x.isCompound = y.isCompound := by
    cases x <;> cases y <;> first | rfl | cases h
  induction h generalizing index with
  | nil => exact .ok .nil
  | cons h _ ih =>
    refine (h.pair index).bind fun p q hpq => ?_
    rw [hcompound hpq, hpq]
    split_ifs
    · exact .error rfl
    · exact (ih (index + 1)).bind fun ps qs hps => .ok (.cons hpq hps)

theorem namedPairs {ps qs : List (Json × Json)}
    (h : List.Forall₂ (fun p q => p.1.kind = q.1.kind) ps qs) :
    Alike Eq (fun _ _ => True) (Json.namedPairs ps) (Json.namedPairs qs) := by
  induction h with
  | nil => exact .ok trivial
  | @cons p q ps qs h _ ih =>
    obtain ⟨name, _⟩ := p
    obtain ⟨other, _⟩ := q
    cases name with
    | str s =>
      cases other with
      | str t => exact ih.bind (S := fun _ _ => True) fun _ _ _ => .ok trivial
      | _ => cases h
    | _ => cases other <;> first | exact .error rfl | cases h

/-- Reordered values stand for members alike. -/
theorem toMembers (h : Reordered a b) : Alike Eq (fun _ _ => True) a.toMembers b.toMembers := by
  rcases h.cases with ⟨rfl, -⟩ | ⟨xs, ys, rfl, rfl, hxy⟩ | ⟨xs, ys, rfl, rfl, -⟩
  · exact .refl (fun _ => rfl) (fun _ => trivial) _
  · exact (pairs hxy 0).bind fun ps qs hpq =>
      (namedPairs hpq).bind (S := fun _ _ => True) fun _ _ _ => .ok trivial
  · exact .ok trivial

end Reordered

end Json

end AlbListener

import AlbListener.Json.Access
import AlbListener.Json.Reader
import AlbListener.Proofs.Entries
import AlbListener.Proofs.Except

/-!
# JSON values with distinct names

`Json.Distinct` says that the names of each object in a value are distinct, at every depth.
Whatever a text is read as has this form. It is the weakest of the properties that a value shares
with its parts (`Json.Hereditary`): whatever is taken out of a value keeps them.

Results:
* `Hereditary.getD`, `Hereditary.member`, `Hereditary.first`, `Hereditary.toMembers`: steps that
  take a value apart.
* `same_refl`: a value with distinct names is the same as itself.
* `readWithin_distinct`: a value that is read from a text has distinct names.
-/

namespace AlbListener.Json

/-- Induction over a value: what holds of an array or object if it holds of all that is directly
    inside, and of every value without parts, holds of every value. -/
@[elab_as_elim] theorem parts_induction {motive : Json → Prop}
    (plain : ∀ value, value.isCompound = false → motive value)
    (arr : ∀ elements, (∀ element ∈ elements, motive element) → motive (.arr elements))
    (obj : ∀ members, (∀ member ∈ members, motive member.2) → motive (.obj members)) :
    ∀ value, motive value
  | .arr elements => arr elements fun element _ => parts_induction plain arr obj element
  | .obj members => obj members fun member _ => parts_induction plain arr obj member.2
  | .null | .bool _ | .int _ | .float _ | .str _ => plain _ rfl
termination_by value => sizeOf value
decreasing_by
  all_goals rename_i h
  · have := List.sizeOf_lt_of_mem h
    simp only [Json.arr.sizeOf_spec]
    omega
  · have hm := List.sizeOf_lt_of_mem h
    have hv : sizeOf member.2 < sizeOf member := by
      cases member
      simp only [Prod.mk.sizeOf_spec]
      omega
    simp only [Json.obj.sizeOf_spec]
    omega

/-- Every object in a value has distinct names. -/
inductive Distinct : Json → Prop
  | plain {value : Json} (h : value.isCompound = false) : Distinct value
  | arr {elements : List Json} (h : ∀ element ∈ elements, Distinct element) :
      Distinct (.arr elements)
  | obj {members : List (String × Json)} (hn : Entries.Distinct members)
      (h : ∀ member ∈ members, Distinct member.2) : Distinct (.obj members)

theorem distinct_str (s : String) : Distinct (.str s) := .plain rfl

theorem distinct_int (n : Int) : Distinct (.int n) := .plain rfl

theorem distinct_null : Distinct .null := .plain rfl

theorem distinct_arr_nil : Distinct (.arr []) := .arr (by simp)

theorem distinct_obj_nil : Distinct (.obj []) := .obj Entries.distinct_nil (by simp)

theorem distinct_arr_iff {elements : List Json} :
    Distinct (.arr elements) ↔ ∀ element ∈ elements, Distinct element := by
  refine ⟨fun h => ?_, .arr⟩
  cases h with
  | plain h => cases h
  | arr h => exact h

theorem distinct_obj_iff {members : List (String × Json)} :
    Distinct (.obj members) ↔
      Entries.Distinct members ∧ ∀ member ∈ members, Distinct member.2 := by
  refine ⟨fun h => ?_, fun h => .obj h.1 h.2⟩
  cases h with
  | plain h => cases h
  | obj hn h => exact ⟨hn, h⟩

/-! ## Taking values apart -/

theorem put_distinct {members : List (String × Json)} {value : Json} (h : (obj members).Distinct)
    (name : String) (hv : value.Distinct) : (obj (Entries.put members name value)).Distinct := by
  obtain ⟨hnames, hvalues⟩ := distinct_obj_iff.mp h
  refine .obj (hnames.put name value) fun member hm => ?_
  rcases Entries.mem_put hm with rfl | hm
  · exact hv
  · exact hvalues member hm

theorem getD_obj (members : List (String × Json)) (name : String) (default : Json) :
    (obj members).getD name default = .ok ((Entries.get? members name).getD default) := rfl

theorem mentions_obj (members : List (String × Json)) (name : String) :
    (obj members).mentions name = .ok (Entries.has members name) := rfl

theorem member_obj_eq_ok_iff {members : List (String × Json)} {name : String} {value : Json} :
    (obj members).member name = .ok value ↔ Entries.get? members name = some value := by
  rw [member]
  cases Entries.get? members name <;> simp

theorem toMembers_obj (members : List (String × Json)) :
    (obj members).toMembers = .ok members := rfl

theorem isNull_iff {value : Json} : value.isNull = true ↔ value = null := by
  cases value <;> simp [isNull]

@[simp] theorem isTruthy_null : null.isTruthy = false := rfl

@[simp] theorem isTruthy_arr_nil : (arr []).isTruthy = false := rfl

@[simp] theorem orElse_null (value : Json) : null.orElse value = value := rfl

@[simp] theorem orElse_arr_nil (elements : List Json) :
    (arr elements).orElse (arr []) = arr elements := by
  cases elements <;> rfl

@[simp] theorem orElse_obj_nil (members : List (String × Json)) :
    (obj members).orElse (obj []) = obj members := by
  cases members <;> rfl

/-! ## Properties of values and their parts -/

/-- A property that a value shares with its parts: every value without parts has it, doubles
    perhaps apart, an array has it if its elements do, and an object if its names are distinct and
    what stands under them has it. -/
structure Hereditary (P : Json → Prop) : Prop where
  plain : ∀ {value}, value.isCompound = false → (∀ x, value ≠ .float x) → P value
  arr_iff : ∀ {elements}, P (.arr elements) ↔ ∀ element ∈ elements, P element
  obj_iff : ∀ {members}, P (.obj members) ↔
    Entries.Distinct members ∧ ∀ member ∈ members, P member.2

theorem hereditary_distinct : Hereditary Distinct where
  plain := fun h _ => .plain h
  arr_iff := distinct_arr_iff
  obj_iff := distinct_obj_iff

theorem orElse_of {P : Json → Prop} {a b : Json} (ha : P a) (hb : P b) : P (a.orElse b) := by
  unfold orElse
  split_ifs <;> assumption

theorem forall_of_namedPairs {P : Json → Prop} {pairs : List (Json × Json)}
    {members : List (String × Json)} (h : ∀ pair ∈ pairs, P pair.2)
    (hf : namedPairs pairs = .ok members) :
    ∀ member ∈ members, P member.2 := by
  induction pairs generalizing members with
  | nil => cases hf; simp
  | cons pair rest ih =>
    obtain ⟨hp, hrest⟩ := List.forall_mem_cons.mp h
    obtain ⟨name, value⟩ := pair
    cases name with
    | str name =>
      rw [namedPairs] at hf
      obtain ⟨more, hmore, hs⟩ := bind_eq_ok_iff.mp hf
      cases hs
      exact List.forall_mem_cons.mpr ⟨hp, ih hrest hmore⟩
    | _ => cases hf

namespace Hereditary

variable {P : Json → Prop}

theorem distinct (hP : Hereditary P) {value : Json} (h : P value) : value.Distinct := by
  induction value using parts_induction with
  | plain value hp => exact .plain hp
  | arr elements ih => exact .arr fun element hm => ih element hm (hP.arr_iff.mp h element hm)
  | obj members ih =>
    obtain ⟨hn, hv⟩ := hP.obj_iff.mp h
    exact .obj hn fun member hm => ih member hm (hv member hm)

theorem str (hP : Hereditary P) (s : String) : P (.str s) := hP.plain rfl fun _ h => by cases h

theorem null (hP : Hereditary P) : P .null := hP.plain rfl fun _ h => by cases h

theorem arr_nil (hP : Hereditary P) : P (.arr []) := hP.arr_iff.mpr (by simp)

theorem obj_nil (hP : Hereditary P) : P (.obj []) := hP.obj_iff.mpr ⟨Entries.distinct_nil, by simp⟩

/-- A member, or a value with the property in its place. -/
theorem value (hP : Hereditary P) {members : List (String × Json)} (h : P (.obj members))
    (name : String) {default : Json} (hd : P default) :
    P ((Entries.get? members name).getD default) := by
  cases hv : Entries.get? members name with
  | none => exact hd
  | some found => exact (hP.obj_iff.mp h).2 _ (Entries.mem_of_get? hv)

theorem ofPairs (hP : Hereditary P) {pairs : List (String × Json)} (h : ∀ pair ∈ pairs, P pair.2) :
    P (.obj (Entries.ofPairs pairs)) := by
  refine hP.obj_iff.mpr ⟨Entries.distinct_ofPairs pairs, fun member hm => ?_⟩
  rcases Entries.mem_overlay hm with hl | hr
  · cases hl
  · exact h member hr

theorem getD (hP : Hereditary P) {value found default : Json} {name : String} (h : P value)
    (hd : P default) (hf : value.getD name default = .ok found) : P found := by
  cases value with
  | obj members =>
    rw [getD_obj] at hf
    cases hf
    exact hP.value h name hd
  | _ => cases hf

theorem member (hP : Hereditary P) {value found : Json} {name : String} (h : P value)
    (hf : value.member name = .ok found) : P found := by
  cases value with
  | obj members =>
    exact (hP.obj_iff.mp h).2 _ (Entries.mem_of_get? (member_obj_eq_ok_iff.mp hf))
  | _ => cases hf

theorem elements (hP : Hereditary P) {value : Json} {values : List Json} (h : P value)
    (hv : value.elements = .ok values) : ∀ v ∈ values, P v := by
  cases value with
  | arr elements => cases hv; exact hP.arr_iff.mp h
  | str s =>
    cases hv
    intro v hm
    obtain ⟨c, -, rfl⟩ := List.mem_map.mp hm
    exact hP.str _
  | obj members =>
    cases hv
    intro v hm
    obtain ⟨member, -, rfl⟩ := List.mem_map.mp hm
    exact hP.str _
  | _ => cases hv

theorem first (hP : Hereditary P) {value found : Json} (h : P value)
    (hf : value.first = .ok found) : P found := by
  cases value with
  | arr elements =>
    cases elements with
    | nil => cases hf
    | cons element rest => cases hf; exact hP.arr_iff.mp h _ List.mem_cons_self
  | str s =>
    rw [Json.first] at hf
    split at hf <;> cases hf
    exact hP.str _
  | _ => cases hf

theorem pair (hP : Hereditary P) {index : Nat} {value : Json} {found : Json × Json} (h : P value)
    (hf : Json.pair index value = .ok found) : P found.2 := by
  unfold Json.pair at hf
  split at hf
  · rename_i name value he
    cases hf
    exact hP.elements h he _ (by simp)
  · cases hf
  · cases hf

theorem pairs (hP : Hereditary P) {index : Nat} {values : List Json} {found : List (Json × Json)}
    (h : ∀ value ∈ values, P value) (hf : Json.pairs index values = .ok found) :
    ∀ pair ∈ found, P pair.2 := by
  induction values generalizing index found with
  | nil => cases hf; simp
  | cons value rest ih =>
    obtain ⟨hv, hrest⟩ := List.forall_mem_cons.mp h
    rw [Json.pairs] at hf
    obtain ⟨first, hfirst, hf⟩ := bind_eq_ok_iff.mp hf
    split_ifs at hf
    obtain ⟨more, hmore, hs⟩ := bind_eq_ok_iff.mp hf
    cases hs
    exact List.forall_mem_cons.mpr ⟨hP.pair hv hfirst, ih hrest hmore⟩

theorem toMembers (hP : Hereditary P) {value : Json} {members : List (String × Json)} (h : P value)
    (hf : value.toMembers = .ok members) : P (.obj members) := by
  cases value with
  | obj given => cases hf; exact h
  | _ =>
    obtain ⟨values, hv, hf⟩ := bind_eq_ok_iff.mp hf
    obtain ⟨pairs, hp, hf⟩ := bind_eq_ok_iff.mp hf
    obtain ⟨named, hn, hf⟩ := bind_eq_ok_iff.mp hf
    cases hf
    exact hP.ofPairs (forall_of_namedPairs (hP.pairs (hP.elements h hv) hp) hn)

end Hereditary

/-! ## Sameness -/

theorem same_eq_sameScalar {a b : Json} (h : a.isCompound = false) :
    a.same b = sameScalar a b := by
  cases a <;> simp_all [same, isCompound]

theorem sameAll_refl {values : List Json} (h : ∀ value ∈ values, same value value = true) :
    sameAll values values = true := by
  induction values with
  | nil => rfl
  | cons value rest ih =>
    rw [sameAll, h value List.mem_cons_self, Bool.true_and]
    exact ih fun v hv => h v (List.mem_cons_of_mem _ hv)

theorem sameMembers_eq_true_iff {as bs : List (String × Json)} :
    sameMembers as bs = true ↔
      ∀ a ∈ as, ∃ value, Entries.get? bs a.1 = some value ∧ a.2.same value = true := by
  induction as with
  | nil => simp [sameMembers]
  | cons a rest ih =>
    rw [sameMembers, Bool.and_eq_true, ih, List.forall_mem_cons]
    cases Entries.get? bs a.1 <;> simp

/-- A value with distinct names is the same as itself. -/
theorem same_refl {value : Json} (h : Distinct value) : value.same value = true := by
  induction h with
  | plain h => rw [same_eq_sameScalar h, sameScalar_refl h]
  | arr _ ih => exact sameAll_refl ih
  | obj hn _ ih =>
    rw [same, beq_self_eq_true, Bool.true_and, sameMembers_eq_true_iff]
    exact fun member hm => ⟨member.2, Entries.get?_of_mem hn hm, ih member hm⟩

theorem equals_null_iff {value : Json} : value.equals null = true ↔ value = null := by
  cases value <;> simp [equals, isNaN, same, sameScalar, number?]

theorem equals_str_iff {s t : String} : (str s).equals (str t) = true ↔ s = t := by
  simp [equals, isNaN, same, sameScalar]

theorem equals_str_self (s : String) : (str s).equals (str s) = true := by
  rw [equals, same_refl (distinct_str s)]
  rfl

/-! ## Reading -/

theorem scanUnsigned?_distinct {negative : Bool} {cs rest : List Char} {value : Json}
    (h : scanUnsigned? negative cs = some (value, rest)) : Distinct value := by
  unfold scanUnsigned? at h
  split at h
  · cases h
  · simp only at h
    split_ifs at h <;> cases h <;> exact .plain rfl

theorem scanScalar?_distinct {cs rest : List Char} {value : Json}
    (h : scanScalar? cs = some (value, rest)) : Distinct value := by
  unfold scanScalar? at h
  split at h
  case h_7 => exact scanUnsigned?_distinct h
  case h_8 => exact scanUnsigned?_distinct h
  all_goals cases h; exact .plain rfl

/-- A number within the limits is kept as it was read. -/
theorem checkDigits_eq_ok_iff {limits : Limits} {left : Nat} {found found' : Scanned Json} :
    checkDigits limits left found = .ok found' ↔
      found = found' ∧ ∀ n, found.1 = .int n → limits.exceededBy? n = none := by
  obtain ⟨value, rest⟩ := found
  unfold checkDigits
  cases value with
  | int n =>
    cases hn : limits.exceededBy? n with
    | none => simp [hn]
    | some limit => simp [hn]
  | _ => simp

/-- What the readers give with some fuel has distinct names, whatever the limits. -/
def ScansDistinct (fuel : Nat) : Prop :=
  (∀ limits cs value rest, scanValue limits fuel cs = .ok (value, rest) → Distinct value) ∧
  (∀ limits cs values rest, scanElements limits fuel cs = .ok (values, rest) →
    ∀ value ∈ values, Distinct value) ∧
  (∀ limits cs members rest, scanMembers limits fuel cs = .ok (members, rest) →
    ∀ member ∈ members, Distinct member.2)

variable {limits : Limits}

theorem scanValue_succ_distinct {fuel : Nat} (ih : ScansDistinct fuel) {cs rest : List Char}
    {value : Json} (h : scanValue limits (fuel + 1) cs = .ok (value, rest)) : Distinct value := by
  unfold scanValue at h
  split at h
  case h_1 =>
    obtain ⟨⟨s, rest⟩, -, hs⟩ := bind_eq_ok_iff.mp h
    cases hs
    exact distinct_str s
  case h_2 =>
    split at h
    · cases h
    · split at h
      · cases h
        exact .arr (by simp)
      · obtain ⟨⟨elements, rest⟩, he, hs⟩ := bind_eq_ok_iff.mp h
        cases hs
        exact .arr (ih.2.1 _ _ _ _ he)
  case h_3 =>
    split at h
    · cases h
    · split at h
      · cases h
        exact .obj Entries.distinct_nil (by simp)
      · obtain ⟨⟨members, rest⟩, hm, hs⟩ := bind_eq_ok_iff.mp h
        cases hs
        exact hereditary_distinct.ofPairs (ih.2.2 _ _ _ _ hm)
  case h_4 =>
    split at h
    · rename_i found hf
      obtain ⟨rfl, -⟩ := checkDigits_eq_ok_iff.mp h
      exact scanScalar?_distinct hf
    · cases h

theorem scanElements_succ_distinct {fuel : Nat} (ih : ScansDistinct fuel) {cs rest : List Char}
    {values : List Json} (h : scanElements limits (fuel + 1) cs = .ok (values, rest)) :
    ∀ value ∈ values, Distinct value := by
  unfold scanElements at h
  obtain ⟨⟨value, behind⟩, hv, h⟩ := bind_eq_ok_iff.mp h
  have hd := ih.1 _ _ _ _ hv
  dsimp only at h
  split at h
  · cases h
    simpa using hd
  · obtain ⟨⟨more, _⟩, hm, hs⟩ := bind_eq_ok_iff.mp h
    cases hs
    exact List.forall_mem_cons.mpr ⟨hd, ih.2.1 _ _ _ _ hm⟩
  · cases h

theorem scanMembers_succ_distinct {fuel : Nat} (ih : ScansDistinct fuel) {cs rest : List Char}
    {members : List (String × Json)}
    (h : scanMembers limits (fuel + 1) cs = .ok (members, rest)) :
    ∀ member ∈ members, Distinct member.2 := by
  unfold scanMembers at h
  split at h
  case h_2 => cases h
  obtain ⟨⟨name, behind⟩, -, h⟩ := bind_eq_ok_iff.mp h
  dsimp only at h
  split at h
  case h_2 => cases h
  obtain ⟨⟨value, behind⟩, hv, h⟩ := bind_eq_ok_iff.mp h
  have hd := ih.1 _ _ _ _ hv
  dsimp only at h
  split at h
  · cases h
    simpa using hd
  · obtain ⟨⟨more, _⟩, hm, hs⟩ := bind_eq_ok_iff.mp h
    cases hs
    exact List.forall_mem_cons.mpr ⟨hd, ih.2.2 _ _ _ _ hm⟩
  · cases h

theorem scansDistinct (fuel : Nat) : ScansDistinct fuel := by
  induction fuel with
  | zero =>
    refine ⟨fun limits cs value rest h => ?_, fun limits cs values rest h => ?_,
      fun limits cs members rest h => ?_⟩
    · simp [scanValue] at h
    · simp [scanElements] at h
    · simp [scanMembers] at h
  | succ fuel ih =>
    exact ⟨fun _ _ _ _ => scanValue_succ_distinct ih, fun _ _ _ _ => scanElements_succ_distinct ih,
      fun _ _ _ _ => scanMembers_succ_distinct ih⟩

/-- A value that is read from a text within any limits has distinct names. -/
theorem readWithin_distinct {s : String} {value : Json} (h : readWithin limits s = .ok value) :
    Distinct value := by
  unfold readWithin at h
  simp only at h
  split at h
  case h_2 => cases h
  rename_i found hf
  cases h
  unfold scanText at hf
  split at hf
  · cases hf
  · obtain ⟨⟨scanned, rest⟩, hs, hf⟩ := bind_eq_ok_iff.mp hf
    dsimp only at hf
    split at hf
    · cases hf
      exact (scansDistinct _).1 _ _ _ _ hs
    · cases hf

theorem read_distinct {s : String} {value : Json} (h : read s = .ok value) : Distinct value :=
  readWithin_distinct h

end AlbListener.Json

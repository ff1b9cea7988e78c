import AlbListener.Proofs.Request.Load

/-!
# The grammar of requests

What a request document has to look like, said directly: which values stand under which names of an
object, and which of them may be missing. A double that is a whole number counts as an integer, a
boolean does not, and names that the grammar does not mention are free.

Results:
* `isIntegral_iff`: which doubles count as integers.
* `backend_eq_nil_iff`, `ingress_eq_nil_iff`, `listenerPort_eq_nil_iff`, `targetGroup_eq_nil_iff`:
  the checks of the parts of a request accept what the grammar does.
* `request_eq_nil_iff`: so does the check of a request.
-/

namespace AlbListener

namespace Grammar

open Entries (get?)

/-! ## Values -/

/-- The number that a value is; a boolean is none. -/
inductive Amounts : Json → Number → Prop
  | int (n : ℤ) : Amounts (.int n) (.ofInt n)
  | float (x : Binary64) : Amounts (.float x) x.number

/-- A value that counts as an integer. -/
def IsInteger (value : Json) : Prop := ∃ n, Amounts value (.ofInt n)

def IsText (value : Json) : Prop := ∃ s, value = .str s

def IsArray (value : Json) : Prop := ∃ elements, value = .arr elements

/-- A text that is not empty. -/
def IsName (value : Json) : Prop := ∃ s, value = .str s ∧ s ≠ ""

/-- A port of a service, by number or by name. -/
def IsServicePort (value : Json) : Prop := IsInteger value ∨ IsName value

/-- The number of a port of a listener. -/
def IsPortNumber (value : Json) : Prop := ∃ n, Amounts value (.ofInt n) ∧ 1 ≤ n ∧ n ≤ 65535

def IsScheme (value : Json) : Prop := value = .str "HTTP" ∨ value = .str "HTTPS"

/-! ## Objects -/

/-- An object has a member of a kind. -/
def Requires (members : List (String × Json)) (name : String) (P : Json → Prop) : Prop :=
  ∃ value, get? members name = some value ∧ P value

/-- An object has a member of a kind or none of that name. -/
def Permits (members : List (String × Json)) (name : String) (P : Json → Prop) : Prop :=
  ∀ value, get? members name = some value → P value

/-- The default backend of an ingress. -/
inductive IsBackend : Json → Prop
  | intro {members : List (String × Json)} (serviceName : Requires members "serviceName" IsName)
      (servicePort : Requires members "servicePort" IsServicePort) : IsBackend (.obj members)

inductive IsSpec : Json → Prop
  | intro {members : List (String × Json)} (backend : Permits members "backend" IsBackend)
      (rules : Permits members "rules" IsArray) : IsSpec (.obj members)

/-- Annotations, all of whose values are texts. -/
inductive IsAnnotations : Json → Prop
  | intro {members : List (String × Json)} (h : ∀ member ∈ members, IsText member.2) :
      IsAnnotations (.obj members)

inductive IsIngress : Json → Prop
  | intro {members : List (String × Json)} (name : Requires members "name" IsName)
      (namespaceName : Permits members "namespace" IsText)
      (annotations : Permits members "annotations" IsAnnotations)
      (spec : Permits members "spec" IsSpec) : IsIngress (.obj members)

/-- The port of a listener and its protocol. -/
inductive IsListenerPort : Json → Prop
  | intro {members : List (String × Json)} (port : Requires members "port" IsPortNumber)
      (scheme : Requires members "scheme" IsScheme) : IsListenerPort (.obj members)

inductive IsTargetGroup : Json → Prop
  | intro {members : List (String × Json)} (serviceName : Requires members "serviceName" IsName)
      (servicePort : Requires members "servicePort" IsServicePort)
      (targetGroupArn : Requires members "targetGroupArn" IsName) : IsTargetGroup (.obj members)

inductive IsTargetGroups : Json → Prop
  | intro {elements : List Json} (h : ∀ element ∈ elements, IsTargetGroup element) :
      IsTargetGroups (.arr elements)

inductive IsRequest : Json → Prop
  | intro {members : List (String × Json)}
      (loadBalancerArn : Requires members "loadBalancerArn" IsName)
      (ingress : Requires members "ingress" IsIngress)
      (port : Requires members "port" IsListenerPort)
      (targetGroups : Permits members "targetGroups" IsTargetGroups) : IsRequest (.obj members)

theorem requires_iff {members : List (String × Json)} {name : String} {P : Json → Prop} :
    Requires members name P ↔ Entries.has members name = true ∧ Permits members name P := by
  unfold Requires Permits Entries.has
  cases get? members name <;> simp

/-! ## Numbers -/

theorem natAbs_sign (negative : Bool) (m : ℕ) : (Binary64.sign negative m).natAbs = m := by
  cases negative <;> simp [Binary64.sign]

/-- A double counts as an integer if it is one. -/
theorem isIntegral_iff {x : Binary64} : x.isIntegral = true ↔ ∃ n, x.number = .ofInt n := by
  constructor
  · intro h
    obtain ⟨n, hn⟩ := Json.isWhole_float h
    exact ⟨n, Option.some.inj hn⟩
  · rintro ⟨n, hn⟩
    cases x with
    | finite negative significand exponent =>
      rw [Binary64.number, Number.ofInt, Number.finite.injEq] at hn
      have hunits : significand * twoTo exponent = n.natAbs * unitsPerOne := by
        rw [← natAbs_sign negative (significand * twoTo exponent), hn, Int.natAbs_mul,
          Int.natAbs_natCast]
      rw [Binary64.isIntegral, hunits, Nat.mul_mod_left]
      rfl
    | _ => cases hn

theorem amounts_float_iff {x : Binary64} {y : Number} : Amounts (.float x) y ↔ x.number = y := by
  constructor
  · rintro ⟨⟩
    rfl
  · rintro rfl
    exact .float x

theorem Amounts.number?_eq {value : Json} {x : Number} (h : Amounts value x) :
    value.number? = some x := by
  cases h <;> rfl

/-- A value is one number at most. -/
theorem Amounts.unique {value : Json} {x y : Number} (hx : Amounts value x) (hy : Amounts value y) :
    x = y := Option.some.inj (hx.number?_eq.symm.trans hy.number?_eq)

end Grammar

namespace Check

open Grammar

variable {value : Json} {members : List (String × Json)} {name : String}

/-! ## Checks of values -/

theorem all_nil_eq_nil : (all [] value : List Violation) = [] := rfl

theorem all_cons_eq_nil_iff {check : Check Json} {checks : List (Check Json)} :
    all (check :: checks) value = [] ↔ check value = [] ∧ all checks value = [] := by
  rw [all, List.flatMap_cons, List.append_eq_nil_iff]
  rfl

theorem isOf_object_iff : isOf value .object = true ↔ ∃ members, value = .obj members :=
  ⟨of_isOf_object, by rintro ⟨members, rfl⟩; rfl⟩

theorem isOf_array_iff : isOf value .array = true ↔ IsArray value :=
  ⟨of_isOf_array, by rintro ⟨elements, rfl⟩; rfl⟩

theorem isOf_string_iff : isOf value .string = true ↔ IsText value :=
  ⟨of_isOf_string, by rintro ⟨s, rfl⟩; rfl⟩

theorem isOf_integer_iff : isOf value .integer = true ↔ IsInteger value := by
  cases value with
  | int n => exact iff_of_true rfl ⟨n, .int n⟩
  | float x =>
    simp only [IsInteger, amounts_float_iff]
    exact isIntegral_iff
  | _ => exact iff_of_false Bool.noConfusion fun ⟨_, h⟩ => by cases h

theorem ofForm_singleton_iff {form : Form} :
    ofForm [form] value = [] ↔ isOf value form = true := by
  simp [ofForm_eq_nil_iff]

theorem nonEmpty_eq_nil_iff : nonEmpty value = [] ↔ value ≠ .str "" := by
  cases value with
  | str s =>
    rw [nonEmpty, Document.shape_str, ne_eq, Json.str.injEq]
    dsimp only
    split_ifs with hs
    · exact iff_of_false (List.cons_ne_nil _ _) (not_not_intro hs)
    · exact iff_of_true rfl hs
  | _ => exact iff_of_true rfl (by simp)

/-- A number that violates a bound is on its other side. -/
theorem shape_of_amounts {x : Number} (h : Amounts value x) :
    ∃ isInteger, Document.shape value = .number x isInteger := by
  cases h with
  | int n => exact ⟨true, rfl⟩
  | float x => exact ⟨x.isIntegral, rfl⟩

theorem bounds_eq_nil_iff {n : ℤ} (h : Amounts value (.ofInt n)) (low high : ℤ) :
    (minimum low value = [] ↔ low ≤ n) ∧ (maximum high value = [] ↔ n ≤ high) := by
  obtain ⟨isInteger, hshape⟩ := shape_of_amounts h
  rw [minimum, maximum, hshape]
  dsimp only
  simp only [Number.lt_ofInt_iff]
  constructor <;> split_ifs with hlt
  · exact iff_of_false (List.cons_ne_nil _ _) (by omega)
  · exact iff_of_true rfl (by omega)
  · exact iff_of_false (List.cons_ne_nil _ _) (by omega)
  · exact iff_of_true rfl (by omega)

theorem text_eq_nil_iff : text value = [] ↔ IsName value := by
  simp only [text, all_cons_eq_nil_iff, all_nil_eq_nil, and_true, ofForm_singleton_iff,
    isOf_string_iff, nonEmpty_eq_nil_iff]
  constructor
  · rintro ⟨⟨s, rfl⟩, hs⟩
    exact ⟨s, rfl, fun he => hs (congrArg Json.str he)⟩
  · rintro ⟨s, rfl, hs⟩
    exact ⟨⟨s, rfl⟩, fun he => hs (Json.str.inj he)⟩

theorem servicePort_eq_nil_iff : servicePort value = [] ↔ IsServicePort value := by
  simp only [servicePort, all_cons_eq_nil_iff, all_nil_eq_nil, and_true, ofForm_eq_nil_iff,
    List.exists_mem_cons_iff, List.not_mem_nil, false_and, exists_false, or_false, isOf_integer_iff,
    isOf_string_iff, nonEmpty_eq_nil_iff]
  constructor
  · rintro ⟨hn | ⟨s, rfl⟩, hs⟩
    · exact .inl hn
    · exact .inr ⟨s, rfl, fun he => hs (congrArg Json.str he)⟩
  · rintro (⟨n, hn⟩ | ⟨s, rfl, hs⟩)
    · exact ⟨.inl ⟨n, hn⟩, by rintro rfl; cases hn⟩
    · exact ⟨.inr ⟨s, rfl⟩, fun he => hs (Json.str.inj he)⟩

theorem portNumber_eq_nil_iff :
    all [ofForm [.integer], minimum 1, maximum 65535] value = [] ↔ IsPortNumber value := by
  simp only [all_cons_eq_nil_iff, all_nil_eq_nil, and_true, ofForm_singleton_iff, isOf_integer_iff]
  constructor
  · rintro ⟨⟨n, hn⟩, hlow, hhigh⟩
    obtain ⟨hmin, hmax⟩ := bounds_eq_nil_iff hn 1 65535
    exact ⟨n, hn, hmin.mp hlow, hmax.mp hhigh⟩
  · rintro ⟨n, hn, hlow, hhigh⟩
    obtain ⟨hmin, hmax⟩ := bounds_eq_nil_iff hn 1 65535
    exact ⟨⟨n, hn⟩, hmin.mpr hlow, hmax.mpr hhigh⟩

theorem oneOf_eq_nil_iff {texts : List String} :
    oneOf texts value = [] ↔ ∃ s ∈ texts, value = .str s := by
  cases value with
  | str s =>
    rw [oneOf, Document.shape_str]
    dsimp only
    split_ifs with hs
    · exact iff_of_true rfl ⟨s, List.contains_iff_mem.mp hs, rfl⟩
    · refine iff_of_false (List.cons_ne_nil _ _) ?_
      rintro ⟨t, ht, he⟩
      cases he
      exact hs (List.contains_iff_mem.mpr ht)
  | _ => exact iff_of_false (List.cons_ne_nil _ _) (by simp)

theorem scheme_eq_nil_iff : oneOf ["HTTP", "HTTPS"] value = [] ↔ IsScheme value := by
  simp [oneOf_eq_nil_iff, IsScheme]

/-! ## Checks of parts -/

/-- The checks of an object that begin with its sort. -/
theorem object_eq_nil_iff {checks : List (Check Json)} :
    all (ofForm [.object] :: checks) value = [] ↔
      ∃ members, value = .obj members ∧ all checks (.obj members) = [] := by
  rw [all_cons_eq_nil_iff, ofForm_singleton_iff, isOf_object_iff]
  constructor
  · rintro ⟨⟨members, rfl⟩, h⟩
    exact ⟨members, rfl, h⟩
  · rintro ⟨members, rfl, h⟩
    exact ⟨⟨members, rfl⟩, h⟩

theorem required_eq_nil_iff {names : List String} :
    required names (Json.obj members) = [] ↔ ∀ name ∈ names, Entries.has members name = true := by
  rw [required, Document.shape_obj]
  dsimp only
  rw [List.flatMap_eq_nil_iff]
  refine forall₂_congr fun name _ => ?_
  split_ifs with h
  · exact iff_of_true rfl h
  · exact iff_of_false (List.cons_ne_nil _ _) h

theorem property_eq_nil_iff {check : Check Json} {P : Json → Prop}
    (h : ∀ value, check value = [] ↔ P value) :
    property name check (Json.obj members) = [] ↔ Permits members name P := by
  rw [property, Document.shape_obj]
  dsimp only
  unfold Permits
  cases Entries.get? members name with
  | none => simp
  | some value => simp [within_eq_nil_iff, h]

theorem annotations_eq_nil_iff :
    all [ofForm [.object], everyMember (ofForm [.string])] value = [] ↔ IsAnnotations value := by
  rw [object_eq_nil_iff]
  simp only [all_cons_eq_nil_iff, all_nil_eq_nil, and_true]
  constructor
  · rintro ⟨members, rfl, h⟩
    refine .intro fun member hm => ?_
    exact isOf_string_iff.mp (ofForm_singleton_iff.mp (check_of_mem_members h hm))
  · rintro ⟨h⟩
    refine ⟨_, rfl, ?_⟩
    rw [everyMember, Document.shape_obj]
    dsimp only
    simp only [List.flatMap_eq_nil_iff, List.forall_mem_map, within_eq_nil_iff]
    exact fun member hm => ofForm_singleton_iff.mpr (isOf_string_iff.mpr (h member hm))

theorem array_eq_nil_iff {check : Check Json} :
    all [ofForm [.array], everyElement check] value = [] ↔
      ∃ elements, value = .arr elements ∧ ∀ element ∈ elements, check element = [] := by
  simp only [all_cons_eq_nil_iff, all_nil_eq_nil, and_true, ofForm_singleton_iff, isOf_array_iff]
  constructor
  · rintro ⟨⟨elements, rfl⟩, h⟩
    exact ⟨elements, rfl, fun element hm => check_of_mem_elements h hm⟩
  · rintro ⟨elements, rfl, h⟩
    refine ⟨⟨elements, rfl⟩, ?_⟩
    rw [everyElement, Document.shape_arr]
    simp only [List.flatMap_eq_nil_iff, within_eq_nil_iff]
    exact fun element hm => h _ (List.fst_mem_of_mem_zipIdx hm)

/-! ## Checks of requests -/

theorem backend_eq_nil_iff : backend value = [] ↔ IsBackend value := by
  rw [backend, object_eq_nil_iff]
  simp only [all_cons_eq_nil_iff, all_nil_eq_nil, and_true, required_eq_nil_iff,
    List.forall_mem_cons, property_eq_nil_iff fun _ => text_eq_nil_iff,
    property_eq_nil_iff fun _ => servicePort_eq_nil_iff]
  constructor
  · rintro ⟨members, rfl, ⟨hname, hport, -⟩, hname', hport'⟩
    exact .intro (requires_iff.mpr ⟨hname, hname'⟩) (requires_iff.mpr ⟨hport, hport'⟩)
  · rintro ⟨hname, hport⟩
    obtain ⟨hname, hname'⟩ := requires_iff.mp hname
    obtain ⟨hport, hport'⟩ := requires_iff.mp hport
    exact ⟨_, rfl, ⟨hname, hport, by simp⟩, hname', hport'⟩

theorem spec_eq_nil_iff :
    all [ofForm [.object], property "backend" backend, property "rules" (ofForm [.array])] value
      = [] ↔ IsSpec value := by
  rw [object_eq_nil_iff]
  simp only [all_cons_eq_nil_iff, all_nil_eq_nil, and_true,
    property_eq_nil_iff fun _ => backend_eq_nil_iff,
    property_eq_nil_iff fun _ => ofForm_singleton_iff.trans isOf_array_iff]
  constructor
  · rintro ⟨members, rfl, hbackend, hrules⟩
    exact .intro hbackend hrules
  · rintro ⟨hbackend, hrules⟩
    exact ⟨_, rfl, hbackend, hrules⟩

theorem ingress_eq_nil_iff : ingress value = [] ↔ IsIngress value := by
  rw [ingress, object_eq_nil_iff]
  simp only [all_cons_eq_nil_iff, all_nil_eq_nil, and_true, required_eq_nil_iff,
    List.forall_mem_singleton, property_eq_nil_iff fun _ => text_eq_nil_iff,
    property_eq_nil_iff fun _ => ofForm_singleton_iff.trans isOf_string_iff,
    property_eq_nil_iff fun _ => annotations_eq_nil_iff,
    property_eq_nil_iff fun _ => spec_eq_nil_iff]
  constructor
  · rintro ⟨members, rfl, hname, hname', hnamespace, hannotations, hspec⟩
    exact .intro (requires_iff.mpr ⟨hname, hname'⟩) hnamespace hannotations hspec
  · rintro ⟨hname, hnamespace, hannotations, hspec⟩
    obtain ⟨hname, hname'⟩ := requires_iff.mp hname
    exact ⟨_, rfl, hname, hname', hnamespace, hannotations, hspec⟩

theorem listenerPort_eq_nil_iff : listenerPort value = [] ↔ IsListenerPort value := by
  rw [listenerPort, object_eq_nil_iff]
  simp only [all_cons_eq_nil_iff, all_nil_eq_nil, and_true, required_eq_nil_iff,
    List.forall_mem_cons, property_eq_nil_iff fun _ => portNumber_eq_nil_iff,
    property_eq_nil_iff fun _ => scheme_eq_nil_iff]
  constructor
  · rintro ⟨members, rfl, ⟨hport, hscheme, -⟩, hport', hscheme'⟩
    exact .intro (requires_iff.mpr ⟨hport, hport'⟩) (requires_iff.mpr ⟨hscheme, hscheme'⟩)
  · rintro ⟨hport, hscheme⟩
    obtain ⟨hport, hport'⟩ := requires_iff.mp hport
    obtain ⟨hscheme, hscheme'⟩ := requires_iff.mp hscheme
    exact ⟨_, rfl, ⟨hport, hscheme, by simp⟩, hport', hscheme'⟩

theorem targetGroup_eq_nil_iff : targetGroup value = [] ↔ IsTargetGroup value := by
  rw [targetGroup, object_eq_nil_iff]
  simp only [all_cons_eq_nil_iff, all_nil_eq_nil, and_true, required_eq_nil_iff,
    List.forall_mem_cons, property_eq_nil_iff fun _ => text_eq_nil_iff,
    property_eq_nil_iff fun _ => servicePort_eq_nil_iff]
  constructor
  · rintro ⟨members, rfl, ⟨hname, hport, harn, -⟩, hname', hport', harn'⟩
    exact .intro (requires_iff.mpr ⟨hname, hname'⟩) (requires_iff.mpr ⟨hport, hport'⟩)
      (requires_iff.mpr ⟨harn, harn'⟩)
  · rintro ⟨hname, hport, harn⟩
    obtain ⟨hname, hname'⟩ := requires_iff.mp hname
    obtain ⟨hport, hport'⟩ := requires_iff.mp hport
    obtain ⟨harn, harn'⟩ := requires_iff.mp harn
    exact ⟨_, rfl, ⟨hname, hport, harn, by simp⟩, hname', hport', harn'⟩

theorem targetGroups_eq_nil_iff :
    all [ofForm [.array], everyElement targetGroup] value = [] ↔ IsTargetGroups value := by
  simp only [array_eq_nil_iff, targetGroup_eq_nil_iff]
  constructor
  · rintro ⟨elements, rfl, h⟩
    exact .intro h
  · rintro ⟨h⟩
    exact ⟨_, rfl, h⟩

/-- The check of a request accepts the grammar of requests. -/
theorem request_eq_nil_iff : request value = [] ↔ IsRequest value := by
  rw [request, object_eq_nil_iff]
  simp only [all_cons_eq_nil_iff, all_nil_eq_nil, and_true, required_eq_nil_iff,
    List.forall_mem_cons, property_eq_nil_iff fun _ => text_eq_nil_iff,
    property_eq_nil_iff fun _ => ingress_eq_nil_iff,
    property_eq_nil_iff fun _ => listenerPort_eq_nil_iff,
    property_eq_nil_iff fun _ => targetGroups_eq_nil_iff]
  constructor
  · rintro ⟨members, rfl, ⟨harn, hingress, hport, -⟩, harn', hingress', hport', htargets⟩
    exact .intro (requires_iff.mpr ⟨harn, harn'⟩) (requires_iff.mpr ⟨hingress, hingress'⟩)
      (requires_iff.mpr ⟨hport, hport'⟩) htargets
  · rintro ⟨harn, hingress, hport, htargets⟩
    obtain ⟨harn, harn'⟩ := requires_iff.mp harn
    obtain ⟨hingress, hingress'⟩ := requires_iff.mp hingress
    obtain ⟨hport, hport'⟩ := requires_iff.mp hport
    exact ⟨_, rfl, ⟨harn, hingress, hport, by simp⟩, harn', hingress', hport', htargets⟩

end Check

end AlbListener

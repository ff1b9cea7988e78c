import AlbListener.Proofs.Request.Grammar
import Mathlib.Data.List.Nodup

/-!
# What is reported of a document that is no request

Every constraint on a request is a rule: which way leads to the values that it is about, and what
they are held to. A document breaches a rule once for each value that the way leads to and that
violates the constraint. The report of a document has one entry for each breach.

Results:
* `mem_entered_iff`, `nodup_entered`: one step of a way, as a relation and as a list.
* `diverge_of_leads`: ways that diverge do not lead to one path.
* `covers_under`, `covers_append`: checks one inside the other and one after the other.
* `covers_request`: the check of a request finds the breaches of its rules, each once.
* `report_request`: nothing is reported of a request, and of any other document every breach is, in
  the order of the paths.
-/

namespace AlbListener

namespace Grammar

open Entries (get?)
open Check (Form)

/-! ## Constraints -/

/-- The values of a sort. -/
def IsOf : Form → Json → Prop
  | .object, value => ∃ members, value = .obj members
  | .array, value => IsArray value
  | .string, value => IsText value
  | .integer, value => IsInteger value

/-- What a value is held to. -/
inductive Constraint
  | form (forms : List Form)
  | required (name : String)
  | nonEmpty
  | minimum (n : ℤ)
  | maximum (n : ℤ)
  | oneOf (texts : List String)
  deriving DecidableEq

/-- A value violates a constraint. Only objects can lack a member, only texts can be empty, and only
    numbers can be too small or too large. -/
def Constraint.Violated : Constraint → Json → Prop
  | .form forms, value => ∀ form ∈ forms, ¬IsOf form value
  | .required name, value => ∃ members, value = .obj members ∧ get? members name = none
  | .nonEmpty, value => value = .str ""
  | .minimum n, value => ∃ x, Amounts value x ∧ x.lt (.ofInt n) = true
  | .maximum n, value => ∃ x, Amounts value x ∧ (Number.ofInt n).lt x = true
  | .oneOf texts, value => ∀ s ∈ texts, value ≠ .str s

/-- What is said of a value that violates a constraint. -/
def Constraint.message (value : Json) : Constraint → String
  | .form forms => value.literal ++ " is not of type "
      ++ String.intercalate ", " (forms.map fun form => Text.quoted form.name)
  | .required name => Text.quoted name ++ " is a required property"
  | .nonEmpty => value.literal ++ " should be non-empty"
  | .minimum n => value.literal ++ " is less than the minimum of " ++ Text.intText n
  | .maximum n => value.literal ++ " is greater than the maximum of " ++ Text.intText n
  | .oneOf texts => value.literal ++ " is not one of " ++ (Json.arr (texts.map .str)).literal

/-! ## Ways into a document -/

inductive Step
  | member (name : String)
  | anyMember
  | anyElement
  deriving DecidableEq

/-- A step leads from a value to one inside it, of this name. -/
inductive Enters : Step → Json → String → Json → Prop
  | member {members : List (String × Json)} {name : String} {value : Json}
      (h : get? members name = some value) : Enters (.member name) (.obj members) name value
  | anyMember {members : List (String × Json)} {name : String} {value : Json}
      (h : get? members name = some value) : Enters .anyMember (.obj members) name value
  | anyElement {elements : List Json} {index : ℕ} {value : Json}
      (h : elements[index]? = some value) :
      Enters .anyElement (.arr elements) (Text.natText index) value

/-- Steps lead from a value to one inside it, along a path. -/
inductive Leads : List Step → Json → List String → Json → Prop
  | here (value : Json) : Leads [] value [] value
  | next {step : Step} {steps : List Step} {value inner found : Json} {name : String}
      {path : List String} (h : Enters step value name inner) (hl : Leads steps inner path found) :
      Leads (step :: steps) value (name :: path) found

/-- A constraint on the values that steps lead to. -/
abbrev Rule := List Step × Constraint

/-- Rules, place by place. -/
def rulesAt (places : List (List Step × List Constraint)) : List Rule :=
  places.flatMap fun place => place.2.map (place.1, ·)

/-- The rules of a request. -/
def requestRules : List Rule :=
  rulesAt [
    ([], [.form [.object], .required "loadBalancerArn", .required "ingress", .required "port"]),
    ([.member "loadBalancerArn"], [.form [.string], .nonEmpty]),
    ([.member "ingress"], [.form [.object], .required "name"]),
    ([.member "ingress", .member "name"], [.form [.string], .nonEmpty]),
    ([.member "ingress", .member "namespace"], [.form [.string]]),
    ([.member "ingress", .member "annotations"], [.form [.object]]),
    ([.member "ingress", .member "annotations", .anyMember], [.form [.string]]),
    ([.member "ingress", .member "spec"], [.form [.object]]),
    ([.member "ingress", .member "spec", .member "backend"],
      [.form [.object], .required "serviceName", .required "servicePort"]),
    ([.member "ingress", .member "spec", .member "backend", .member "serviceName"],
      [.form [.string], .nonEmpty]),
    ([.member "ingress", .member "spec", .member "backend", .member "servicePort"],
      [.form [.integer, .string], .nonEmpty]),
    ([.member "ingress", .member "spec", .member "rules"], [.form [.array]]),
    ([.member "port"], [.form [.object], .required "port", .required "scheme"]),
    ([.member "port", .member "port"], [.form [.integer], .minimum 1, .maximum 65535]),
    ([.member "port", .member "scheme"], [.oneOf ["HTTP", "HTTPS"]]),
    ([.member "targetGroups"], [.form [.array]]),
    ([.member "targetGroups", .anyElement], [.form [.object], .required "serviceName",
      .required "servicePort", .required "targetGroupArn"]),
    ([.member "targetGroups", .anyElement, .member "serviceName"], [.form [.string], .nonEmpty]),
    ([.member "targetGroups", .anyElement, .member "servicePort"],
      [.form [.integer, .string], .nonEmpty]),
    ([.member "targetGroups", .anyElement, .member "targetGroupArn"],
      [.form [.string], .nonEmpty])]

/-! ## Breaches -/

/-- A value that violates a constraint, and the path to it. -/
structure Breach where
  path : List String
  value : Json
  constraint : Constraint

/-- A document breaches one of some rules. -/
def Breached (rules : List Rule) (document : Json) (b : Breach) : Prop :=
  b.constraint.Violated b.value ∧
    ∃ steps, (steps, b.constraint) ∈ rules ∧ Leads steps document b.path b.value

namespace Breach

/-- The path to a breach as a text. -/
def place (b : Breach) : String :=
  if b.path = [] then "(root)" else String.intercalate "." b.path

/-- What is said of a breach. -/
def entry (b : Breach) : String := b.place ++ ": " ++ b.constraint.message b.value

/-- The violation that a check finds for a breach. -/
def violation (b : Breach) : Violation := ⟨b.path, b.constraint.message b.value⟩

/-- A breach by a value inside another. -/
def inside (name : String) (b : Breach) : Breach := { b with path := name :: b.path }

theorem inside_injective (name : String) : Function.Injective (inside name) := by
  rintro ⟨path, value, constraint⟩ ⟨path', value', constraint'⟩ h
  simpa [inside] using h

theorem entry_violation (b : Breach) : Check.entry b.violation = b.entry := by
  simp [Check.entry, entry, place, violation]

theorem within_map_violation (name : String) (breaches : List Breach) :
    Check.within [name] (breaches.map violation) = (breaches.map (inside name)).map violation := by
  simp [Check.within, violation, inside]

end Breach

/-! ## Steps -/

/-- Where a step leads to. -/
def Step.entered : Step → Json → List (String × Json)
  | .member name, .obj members => ((get? members name).map (name, ·)).toList
  | .anyMember, .obj members => members
  | .anyElement, .arr elements =>
    elements.zipIdx.map fun element => (Text.natText element.2, element.1)
  | _, _ => []

variable {step : Step} {steps steps' : List Step} {value value' inner found found' : Json}
  {name : String} {path : List String}

theorem natText_injective : Function.Injective Text.natText := by
  intro m n h
  have hdigits : Nat.toDigits 10 m = Nat.toDigits 10 n := String.ofList_injective h
  have hvalue := Nat.ofDigitChars_toDigits (n := m) (show 1 < 10 by decide) (show 10 ≤ 10 by decide)
  rwa [hdigits, Nat.ofDigitChars_toDigits (by decide) (by decide), eq_comm] at hvalue

theorem mem_entered_iff (hd : value.Distinct) :
    (name, inner) ∈ step.entered value ↔ Enters step value name inner := by
  constructor
  · intro h
    unfold Step.entered at h
    split at h
    · simp only [Option.mem_toList, Option.map_eq_some_iff, Prod.mk.injEq] at h
      obtain ⟨found, hget, rfl, rfl⟩ := h
      exact .member hget
    · exact .anyMember (Entries.get?_of_mem (Json.distinct_obj_iff.mp hd).1 h)
    · obtain ⟨⟨found, index⟩, hm, he⟩ := List.mem_map.mp h
      cases he
      exact .anyElement (List.mk_mem_zipIdx_iff_getElem?.mp hm)
    · cases h
  · rintro (h | h | h)
    · simp [Step.entered, h]
    · exact Entries.mem_of_get? h
    · exact List.mem_map.mpr ⟨(_, _), List.mk_mem_zipIdx_iff_getElem?.mpr h, rfl⟩

theorem names_of_elements (elements : List Json) :
    (Step.anyElement.entered (.arr elements)).map Prod.fst =
      (List.range' 0 elements.length).map Text.natText := by
  rw [Step.entered, ← List.zipIdx_map_snd 0 elements, List.map_map, List.map_map]
  rfl

theorem nodup_entered (hd : value.Distinct) : ((step.entered value).map Prod.fst).Nodup := by
  unfold Step.entered
  split
  · cases get? _ _ <;> simp
  · exact (Json.distinct_obj_iff.mp hd).1
  case h_3 elements =>
    show ((Step.anyElement.entered (.arr elements)).map Prod.fst).Nodup
    rw [names_of_elements]
    exact List.Nodup.map natText_injective List.nodup_range'
  · exact List.nodup_nil

theorem Enters.distinct (h : Enters step value name inner) (hd : value.Distinct) :
    inner.Distinct := by
  cases h with
  | member h | anyMember h => exact (Json.distinct_obj_iff.mp hd).2 _ (Entries.mem_of_get? h)
  | anyElement h => exact Json.distinct_arr_iff.mp hd _ (List.mem_of_getElem? h)

/-- Steps differ if they take members of different names. -/
def Step.differ : Step → Step → Bool
  | .member name, .member name' => name != name'
  | _, _ => false

/-- Ways diverge if they are of different lengths or at some point their steps differ. -/
def diverge : List Step → List Step → Bool
  | [], [] => false
  | step :: steps, step' :: steps' => step.differ step' || diverge steps steps'
  | _, _ => true

theorem differ_of_enters {step' : Step} {inner' : Json} (h : Enters step value name inner)
    (h' : Enters step' value' name inner') : step.differ step' = false := by
  cases h with
  | member =>
    cases step' with
    | member =>
      cases h'
      simp [Step.differ]
    | _ => rfl
  | _ => rfl

/-- Ways that diverge do not lead to one path. -/
theorem diverge_of_leads (h : Leads steps value path found) (h' : Leads steps' value' path found') :
    diverge steps steps' = false := by
  induction h generalizing steps' value' with
  | here value =>
    cases h'
    rfl
  | next h hl ih =>
    cases h' with
    | next h' hl' => rw [diverge, differ_of_enters h h', ih hl', Bool.or_false]

/-! ## Breaches of rules -/

variable {rules rules' : List Rule} {b : Breach} {c : Constraint}

/-- The rules for what a step leads to, as rules for where it leads from. -/
def under (step : Step) (rules : List Rule) : List Rule :=
  rules.map fun rule => (step :: rule.1, rule.2)

/-- Rules apart are not breached by one value in the same way. -/
def Apart (r r' : Rule) : Prop := r.2 ≠ r'.2 ∨ diverge r.1 r'.1 = true

instance (r r' : Rule) : Decidable (Apart r r') := inferInstanceAs (Decidable (_ ∨ _))

theorem breached_nil_iff : Breached [] value b ↔ False := by simp [Breached]

theorem breached_here_iff : Breached [([], c)] value b ↔ c.Violated value ∧ b = ⟨[], value, c⟩ := by
  obtain ⟨path, found, constraint⟩ := b
  simp only [Breached, List.mem_singleton, Prod.mk.injEq, Breach.mk.injEq]
  constructor
  · rintro ⟨hv, steps, ⟨rfl, rfl⟩, hl⟩
    cases hl
    exact ⟨hv, rfl, rfl, rfl⟩
  · rintro ⟨hv, rfl, rfl, rfl⟩
    exact ⟨hv, [], ⟨rfl, rfl⟩, .here _⟩

theorem breached_append_iff :
    Breached (rules ++ rules') value b ↔ Breached rules value b ∨ Breached rules' value b := by
  simp only [Breached, List.mem_append, or_and_right, exists_or, and_or_left]

theorem breached_under_iff : Breached (under step rules) value b ↔
    ∃ name inner b', Enters step value name inner ∧ Breached rules inner b' ∧
      b'.inside name = b := by
  obtain ⟨path, found, constraint⟩ := b
  constructor
  · rintro ⟨hv, steps, hm, hl⟩
    obtain ⟨⟨steps', constraint⟩, hrule, he⟩ := List.mem_map.mp hm
    cases he
    cases hl with
    | @next _ _ _ inner _ name path h hl =>
      exact ⟨name, inner, ⟨path, found, constraint⟩, h, ⟨hv, _, hrule, hl⟩, rfl⟩
  · rintro ⟨name, inner, b', h, ⟨hv, steps, hm, hl⟩, he⟩
    cases he
    exact ⟨hv, step :: steps, List.mem_map.mpr ⟨_, hm, rfl⟩, .next h hl⟩

/-- Rules apart are not breached alike. -/
theorem not_breached_of_apart (h : ∀ r ∈ rules, ∀ r' ∈ rules', Apart r r')
    (hb : Breached rules value b) : ¬Breached rules' value b := by
  rintro ⟨-, steps', hm', hl'⟩
  obtain ⟨-, steps, hm, hl⟩ := hb
  rcases h _ hm _ hm' with hne | hdiverge
  · exact hne rfl
  · exact Bool.noConfusion ((diverge_of_leads hl hl').symm.trans hdiverge)

end Grammar

namespace Check

open Grammar

/-! ## What checks find -/

variable {check check' : Check Json} {rules rules' : List Rule}

/-- A check finds the breaches of some rules, each of them once. -/
def Covers (check : Check Json) (rules : List Rule) : Prop :=
  ∃ breaches : Json → List Breach, ∀ value : Json, value.Distinct →
    check value = (breaches value).map Breach.violation ∧ (breaches value).Nodup ∧
      ∀ b, b ∈ breaches value ↔ Breached rules value b

theorem covers_nil : Covers (fun _ => []) [] :=
  ⟨fun _ => [], fun _ _ => ⟨rfl, List.nodup_nil, fun _ => by simp [breached_nil_iff]⟩⟩

/-- A check of a single constraint. -/
theorem covers_here (c : Constraint) (h : ∀ value,
    c.Violated value ∧ check value = violation (c.message value) ∨
      ¬c.Violated value ∧ check value = []) : Covers check [([], c)] := by
  classical
  refine ⟨fun value => if c.Violated value then [⟨[], value, c⟩] else [], fun value _ => ?_⟩
  simp only [breached_here_iff]
  rcases h value with ⟨hv, he⟩ | ⟨hv, he⟩
  · rw [if_pos hv]
    exact ⟨he, List.nodup_singleton _, by simp [hv]⟩
  · rw [if_neg hv]
    exact ⟨he, List.nodup_nil, by simp [hv]⟩

/-- Checks one after the other. -/
theorem covers_append (h : Covers check rules) (h' : Covers check' rules')
    (ha : ∀ r ∈ rules, ∀ r' ∈ rules', Apart r r') :
    Covers (fun value => check value ++ check' value) (rules ++ rules') := by
  obtain ⟨breaches, h⟩ := h
  obtain ⟨breaches', h'⟩ := h'
  refine ⟨fun value => breaches value ++ breaches' value, fun value hd => ?_⟩
  obtain ⟨heq, hnodup, hmem⟩ := h value hd
  obtain ⟨heq', hnodup', hmem'⟩ := h' value hd
  refine ⟨?_, ?_, fun b => ?_⟩
  · simp only [heq, heq', List.map_append]
  · refine List.nodup_append'.mpr ⟨hnodup, hnodup', fun b hb hb' => ?_⟩
    exact not_breached_of_apart ha ((hmem b).mp hb) ((hmem' b).mp hb')
  · rw [List.mem_append, hmem, hmem', breached_append_iff]

/-- A list of checks whose rules are apart. -/
theorem covers_all {checks : List (Check Json)} {tables : List (List Rule)}
    (h : List.Forall₂ Covers checks tables)
    (ha : tables.Pairwise fun rules rules' => ∀ r ∈ rules, ∀ r' ∈ rules', Apart r r')
    (hr : tables.flatten = rules) : Covers (all checks) rules := by
  subst hr
  induction h with
  | nil => exact covers_nil
  | cons h _ ih =>
    obtain ⟨hfirst, hrest⟩ := List.pairwise_cons.mp ha
    refine covers_append h (ih hrest) fun r hr r' hr' => ?_
    obtain ⟨rules', hm, hr'⟩ := List.mem_flatten.mp hr'
    exact hfirst rules' hm r hr r' hr'

/-- A check of what a step leads to. -/
theorem covers_under (h : Covers check rules) (step : Step) :
    Covers (fun value => (step.entered value).flatMap fun found => within [found.1] (check found.2))
      (under step rules) := by
  obtain ⟨breaches, h⟩ := h
  refine ⟨fun value => (step.entered value).flatMap fun found =>
    (breaches found.2).map (Breach.inside found.1), fun value hd => ?_⟩
  have hinner {name : String} {inner : Json} (hm : (name, inner) ∈ step.entered value) :=
    h inner (((mem_entered_iff hd).mp hm).distinct hd)
  refine ⟨?_, ?_, fun b => ?_⟩
  · rw [List.map_flatMap]
    refine List.flatMap_congr fun ⟨name, inner⟩ hm => ?_
    rw [(hinner hm).1, Breach.within_map_violation]
  · refine List.nodup_flatMap.mpr ⟨fun ⟨name, inner⟩ hm => ?_, ?_⟩
    · exact (hinner hm).2.1.map (Breach.inside_injective name)
    · refine (List.pairwise_map.mp (nodup_entered hd)).imp fun {p q} hne b hb hb' => hne ?_
      obtain ⟨_, -, rfl⟩ := List.mem_map.mp hb
      obtain ⟨_, -, he⟩ := List.mem_map.mp hb'
      exact (List.cons.inj (congrArg Breach.path he)).1.symm
  · rw [breached_under_iff]
    simp only [List.mem_flatMap, List.mem_map, Prod.exists]
    constructor
    · rintro ⟨name, inner, hm, b', hb', rfl⟩
      exact ⟨name, inner, b', (mem_entered_iff hd).mp hm, ((hinner hm).2.2 b').mp hb', rfl⟩
    · rintro ⟨name, inner, b', hs, hb', rfl⟩
      have hm := (mem_entered_iff hd).mpr hs
      exact ⟨name, inner, hm, b', ((hinner hm).2.2 b').mpr hb', rfl⟩

/-! ## Checks as steps -/

theorem property_eq_under (name : String) (check : Check Json) : property name check =
    fun value => ((Step.member name).entered value).flatMap fun found =>
      within [found.1] (check found.2) := by
  funext value
  cases value with
  | obj members =>
    rw [property, Document.shape_obj, Step.entered]
    dsimp only
    cases Entries.get? members name <;> simp
  | _ => rfl

theorem everyMember_eq_under (check : Check Json) : everyMember check =
    fun value => (Step.anyMember.entered value).flatMap fun found =>
      within [found.1] (check found.2) := by
  funext value
  cases value with
  | obj members =>
    rw [everyMember, Document.shape_obj, Step.entered]
    dsimp only
    rw [List.flatMap_map]
  | _ => rfl

theorem everyElement_eq_under (check : Check Json) : everyElement check =
    fun value => (Step.anyElement.entered value).flatMap fun found =>
      within [found.1] (check found.2) := by
  funext value
  cases value with
  | arr elements =>
    rw [everyElement, Document.shape_arr, Step.entered]
    dsimp only
    rw [List.flatMap_map]
  | _ => rfl

theorem covers_property (h : Covers check rules) (name : String) :
    Covers (property name check) (under (.member name) rules) :=
  property_eq_under name check ▸ covers_under h (.member name)

theorem covers_everyMember (h : Covers check rules) :
    Covers (everyMember check) (under .anyMember rules) :=
  everyMember_eq_under check ▸ covers_under h .anyMember

theorem covers_everyElement (h : Covers check rules) :
    Covers (everyElement check) (under .anyElement rules) :=
  everyElement_eq_under check ▸ covers_under h .anyElement

/-! ## Checks of constraints -/

theorem isOf_iff {form : Form} {value : Json} : isOf value form = true ↔ IsOf form value := by
  cases form with
  | object => exact isOf_object_iff
  | array => exact isOf_array_iff
  | string => exact isOf_string_iff
  | integer => exact isOf_integer_iff

theorem covers_ofForm (forms : List Form) : Covers (ofForm forms) [([], .form forms)] := by
  refine covers_here _ fun value => ?_
  have hany : forms.any (isOf value) = true ↔ ¬Constraint.Violated (.form forms) value := by
    simp [Constraint.Violated, isOf_iff]
  unfold ofForm
  split_ifs with h
  · exact .inr ⟨hany.mp h, rfl⟩
  · exact .inl ⟨not_not.mp (mt hany.mpr h), rfl⟩

theorem covers_nonEmpty : Covers nonEmpty [([], .nonEmpty)] := by
  refine covers_here _ fun value => ?_
  by_cases h : value = .str ""
  · subst h
    exact .inl ⟨rfl, rfl⟩
  · exact .inr ⟨h, nonEmpty_eq_nil_iff.mpr h⟩

theorem covers_oneOf (texts : List String) : Covers (oneOf texts) [([], .oneOf texts)] := by
  refine covers_here _ fun value => ?_
  have hknown : Constraint.Violated (.oneOf texts) value ↔ oneOf texts value ≠ [] := by
    simp [Constraint.Violated, oneOf_eq_nil_iff]
  by_cases h : oneOf texts value = []
  · exact .inr ⟨mt hknown.mp (not_not_intro h), h⟩
  · refine .inl ⟨hknown.mpr h, ?_⟩
    unfold oneOf at h ⊢
    dsimp only at h ⊢
    split_ifs at h ⊢
    · exact absurd rfl h
    · rfl

/-- A check of a bound says nothing of a value that is no number. -/
theorem covers_bound (c : Constraint) {beyond : Number → Bool}
    (hc : ∀ value, c.Violated value ↔ ∃ x, Amounts value x ∧ beyond x = true)
    (h : ∀ value, check value = match Document.shape value with
      | .number x _ => if beyond x then violation (c.message value) else []
      | _ => []) : Covers check [([], c)] := by
  refine covers_here c fun value => ?_
  rw [hc, h]
  by_cases hn : ∃ x, Amounts value x
  · obtain ⟨x, hx⟩ := hn
    obtain ⟨isInteger, hshape⟩ := shape_of_amounts hx
    rw [hshape]
    dsimp only
    split_ifs with hbeyond
    · exact .inl ⟨⟨x, hx, hbeyond⟩, rfl⟩
    · refine .inr ⟨?_, rfl⟩
      rintro ⟨y, hy, hy'⟩
      exact hbeyond (hx.unique hy ▸ hy')
  · refine .inr ⟨fun ⟨x, hx, _⟩ => hn ⟨x, hx⟩, ?_⟩
    cases value with
    | int m => exact absurd ⟨_, .int m⟩ hn
    | float x => exact absurd ⟨_, .float x⟩ hn
    | _ => rfl

theorem covers_minimum (n : ℤ) : Covers (minimum n) [([], .minimum n)] :=
  covers_bound (.minimum n) (fun _ => .rfl) fun value => by cases value <;> rfl

theorem covers_maximum (n : ℤ) : Covers (maximum n) [([], .maximum n)] :=
  covers_bound (.maximum n) (fun _ => .rfl) fun value => by cases value <;> rfl

theorem covers_required_singleton (name : String) :
    Covers (required [name]) [([], .required name)] := by
  refine covers_here _ fun value => ?_
  cases value with
  | obj members =>
    by_cases h : Entries.has members name = true
    · refine .inr ⟨?_, required_eq_nil_iff.mpr (List.forall_mem_singleton.mpr h)⟩
      rintro ⟨_, ⟨⟩, hnone⟩
      rw [Entries.has, hnone] at h
      cases h
    · refine .inl ⟨⟨members, rfl, Option.not_isSome_iff_eq_none.mp h⟩, ?_⟩
      simp [required, h, Constraint.message]
  | _ => exact .inr ⟨by simp [Constraint.Violated], rfl⟩

theorem required_cons (name : String) (names : List String) : required (name :: names) =
    fun value : Json => required [name] value ++ required names value := by
  funext value
  cases value with
  | obj members =>
    rw [required, required, required, Document.shape_obj]
    simp
  | _ => rfl

theorem covers_required {names : List String} (h : names.Nodup) :
    Covers (required names) (names.map fun name => ([], .required name)) := by
  induction names with
  | nil =>
    have hnil : required [] = fun _ : Json => [] := by
      funext value
      cases value <;> rfl
    exact hnil ▸ covers_nil
  | cons name names ih =>
    obtain ⟨hname, hnames⟩ := List.nodup_cons.mp h
    rw [required_cons, List.map_cons]
    refine covers_append (covers_required_singleton name) (ih hnames) ?_
    simp only [List.forall_mem_singleton, List.forall_mem_map]
    refine fun other hm => .inl fun he => hname ?_
    exact Constraint.required.inj he ▸ hm

/-! ## Checks of requests -/

theorem covers_text : Covers text (rulesAt [([], [.form [.string], .nonEmpty])]) :=
  covers_all (.cons (covers_ofForm _) (.cons covers_nonEmpty .nil)) (by decide) rfl

theorem covers_servicePort :
    Covers servicePort (rulesAt [([], [.form [.integer, .string], .nonEmpty])]) :=
  covers_all (.cons (covers_ofForm _) (.cons covers_nonEmpty .nil)) (by decide) rfl

theorem covers_backend : Covers backend (rulesAt [
    ([], [.form [.object], .required "serviceName", .required "servicePort"]),
    ([.member "serviceName"], [.form [.string], .nonEmpty]),
    ([.member "servicePort"], [.form [.integer, .string], .nonEmpty])]) :=
  covers_all (.cons (covers_ofForm _) (.cons (covers_required (by decide))
    (.cons (covers_property covers_text _) (.cons (covers_property covers_servicePort _) .nil))))
    (by decide) rfl

theorem covers_annotations : Covers (all [ofForm [.object], everyMember (ofForm [.string])])
    (rulesAt [([], [.form [.object]]), ([.anyMember], [.form [.string]])]) :=
  covers_all (.cons (covers_ofForm _) (.cons (covers_everyMember (covers_ofForm _)) .nil))
    (by decide) rfl

theorem covers_spec : Covers
    (all [ofForm [.object], property "backend" backend, property "rules" (ofForm [.array])])
    (rulesAt [
      ([], [.form [.object]]),
      ([.member "backend"], [.form [.object], .required "serviceName", .required "servicePort"]),
      ([.member "backend", .member "serviceName"], [.form [.string], .nonEmpty]),
      ([.member "backend", .member "servicePort"], [.form [.integer, .string], .nonEmpty]),
      ([.member "rules"], [.form [.array]])]) :=
  covers_all (.cons (covers_ofForm _) (.cons (covers_property covers_backend _)
    (.cons (covers_property (covers_ofForm _) _) .nil))) (by decide) rfl

theorem covers_ingress : Covers ingress (rulesAt [
    ([], [.form [.object], .required "name"]),
    ([.member "name"], [.form [.string], .nonEmpty]),
    ([.member "namespace"], [.form [.string]]),
    ([.member "annotations"], [.form [.object]]),
    ([.member "annotations", .anyMember], [.form [.string]]),
    ([.member "spec"], [.form [.object]]),
    ([.member "spec", .member "backend"],
      [.form [.object], .required "serviceName", .required "servicePort"]),
    ([.member "spec", .member "backend", .member "serviceName"], [.form [.string], .nonEmpty]),
    ([.member "spec", .member "backend", .member "servicePort"],
      [.form [.integer, .string], .nonEmpty]),
    ([.member "spec", .member "rules"], [.form [.array]])]) :=
  covers_all (.cons (covers_ofForm _) (.cons (covers_required (by decide))
    (.cons (covers_property covers_text _) (.cons (covers_property (covers_ofForm _) _)
    (.cons (covers_property covers_annotations _) (.cons (covers_property covers_spec _) .nil))))))
    (by decide) rfl

theorem covers_listenerPort : Covers listenerPort (rulesAt [
    ([], [.form [.object], .required "port", .required "scheme"]),
    ([.member "port"], [.form [.integer], .minimum 1, .maximum 65535]),
    ([.member "scheme"], [.oneOf ["HTTP", "HTTPS"]])]) := by
  have hnumber : Covers (all [ofForm [.integer], minimum 1, maximum 65535])
      (rulesAt [([], [.form [.integer], .minimum 1, .maximum 65535])]) :=
    covers_all (.cons (covers_ofForm _) (.cons (covers_minimum _) (.cons (covers_maximum _) .nil)))
      (by decide) rfl
  exact covers_all (.cons (covers_ofForm _) (.cons (covers_required (by decide))
    (.cons (covers_property hnumber _) (.cons (covers_property (covers_oneOf _) _) .nil))))
    (by decide) rfl

theorem covers_targetGroup : Covers targetGroup (rulesAt [
    ([], [.form [.object], .required "serviceName", .required "servicePort",
      .required "targetGroupArn"]),
    ([.member "serviceName"], [.form [.string], .nonEmpty]),
    ([.member "servicePort"], [.form [.integer, .string], .nonEmpty]),
    ([.member "targetGroupArn"], [.form [.string], .nonEmpty])]) :=
  covers_all (.cons (covers_ofForm _) (.cons (covers_required (by decide))
    (.cons (covers_property covers_text _) (.cons (covers_property covers_servicePort _)
    (.cons (covers_property covers_text _) .nil))))) (by decide) rfl

/-- The check of a request finds the breaches of the rules of requests. -/
theorem covers_request : Covers request requestRules := by
  have htargets : Covers (all [ofForm [.array], everyElement targetGroup]) (rulesAt [
      ([], [.form [.array]]),
      ([.anyElement], [.form [.object], .required "serviceName", .required "servicePort",
        .required "targetGroupArn"]),
      ([.anyElement, .member "serviceName"], [.form [.string], .nonEmpty]),
      ([.anyElement, .member "servicePort"], [.form [.integer, .string], .nonEmpty]),
      ([.anyElement, .member "targetGroupArn"], [.form [.string], .nonEmpty])]) :=
    covers_all (.cons (covers_ofForm _) (.cons (covers_everyElement covers_targetGroup) .nil))
      (by decide) rfl
  exact covers_all (.cons (covers_ofForm _) (.cons (covers_required (by decide))
    (.cons (covers_property covers_text _) (.cons (covers_property covers_ingress _)
    (.cons (covers_property covers_listenerPort _) (.cons (covers_property htargets _) .nil))))))
    (by decide) rfl

/-! ## Reports -/

theorem pathLe_iff {path path' : List String} :
    pathLe path path' = true ↔ path = path' ∨ path < path' := by
  induction path generalizing path' with
  | nil => cases path' <;> simp [pathLe]
  | cons name path ih =>
    cases path' with
    | nil => simp [pathLe]
    | cons name' path' =>
      rw [pathLe, List.cons_lt_cons_iff, List.cons.injEq]
      split_ifs with h
      · subst h
        simp only [ih, String.lt_irrefl, true_and, false_or]
      · have hlt : name ≤ name' ↔ name < name' := by
          constructor
          · exact fun hle => String.not_le.mp fun hge => h (String.le_antisymm hle hge)
          · exact fun hlt => String.not_lt.mp (String.lt_asymm hlt)
        simp [textLe, h, hlt]

theorem pathLe_total (path path' : List String) :
    (pathLe path path' || pathLe path' path) = true := by
  induction path generalizing path' with
  | nil => simp [pathLe]
  | cons name path ih =>
    cases path' with
    | nil => simp [pathLe]
    | cons name' path' =>
      by_cases h : name = name'
      · simpa [pathLe, h] using ih path'
      · simpa [pathLe, h, Ne.symm h] using textLe_total name name'

theorem pathLe_trans {path path' path'' : List String} (h : pathLe path path' = true)
    (h' : pathLe path' path'' = true) : pathLe path path'' = true := by
  rw [pathLe_iff] at h h' ⊢
  rcases h with rfl | h
  · exact h'
  rcases h' with rfl | h'
  · exact .inr h
  · exact .inr (List.lex_trans String.lt_trans h h')

/-- Breaches in the order of the paths. -/
def byPath (breaches : List Breach) : List Breach :=
  sortBy (fun b b' => pathLe b.path b'.path) breaches

theorem byPath_perm (breaches : List Breach) : (byPath breaches).Perm breaches := sortBy_perm _ _

theorem pairwise_byPath (breaches : List Breach) :
    (byPath breaches).Pairwise fun b b' => b.path = b'.path ∨ b.path < b'.path := by
  have hle : (byPath breaches).Pairwise fun b b' => pathLe b.path b'.path = true := by
    refine pairwise_sortBy ?_ ?_ breaches
    · exact fun b b' => pathLe_total b.path b'.path
    · exact fun _ _ _ => pathLe_trans
  exact hle.imp pathLe_iff.mp

theorem report_map_violation {check : Check Json} {document : Json} {breaches : List Breach}
    (h : check document = breaches.map Breach.violation) (hne : breaches ≠ []) :
    report check document =
      some (String.intercalate "; " ((byPath breaches).map Breach.entry)) := by
  have hentries : (inOrder (breaches.map Breach.violation)).map entry =
      (byPath breaches).map Breach.entry := by
    rw [inOrder, sortBy_map, List.map_map]
    exact List.map_congr_left fun b _ => b.entry_violation
  rw [← hentries, ← h, report]
  split
  case h_1 hnil => exact absurd (List.map_eq_nil_iff.mp (h.symm.trans hnil)) hne
  case h_2 => rfl

/-- A document is reported if it is no request. The report has one entry for each breach of the
    rules, and the entries are in the order of the paths. -/
theorem report_request {document : Json} (hd : document.Distinct) :
    (report request document = none ↔ IsRequest document) ∧
      (¬IsRequest document → ∃ breaches : List Breach,
        breaches ≠ [] ∧ breaches.Nodup ∧
        (∀ b, b ∈ breaches ↔ Breached requestRules document b) ∧
        breaches.Pairwise (fun b b' => b.path = b'.path ∨ b.path < b'.path) ∧
        report request document =
          some (String.intercalate "; " (breaches.map Breach.entry))) := by
  refine ⟨report_eq_none_iff.trans request_eq_nil_iff, fun hrequest => ?_⟩
  obtain ⟨breaches, h⟩ := covers_request
  obtain ⟨heq, hnodup, hmem⟩ := h document hd
  have hperm := byPath_perm (breaches document)
  have hne : breaches document ≠ [] := by
    intro hnil
    rw [hnil] at heq
    exact hrequest (request_eq_nil_iff.mp heq)
  refine ⟨byPath (breaches document), ?_, hperm.nodup_iff.mpr hnodup, fun b => ?_,
    pairwise_byPath _, report_map_violation heq hne⟩
  · exact fun hnil => hne (hnil ▸ hperm).symm.eq_nil
  · rw [hperm.mem_iff, hmem]

/-- A document whose load balancer has no name and whose port is too small and of no protocol. -/
def portZero : Json := .obj [
  ("port", .obj [("port", .int 0)]),
  ("ingress", .obj [("name", .str "web"), ("annotations", .obj [("10", .int 1), ("9", .null)])]),
  ("loadBalancerArn", .str "")]

theorem portZero_distinct : portZero.Distinct := by
  simp [portZero, Json.distinct_obj_iff, Entries.distinct_cons_iff, Json.distinct_str,
    Json.distinct_int, Json.distinct_null, Entries.names]

theorem report_portZero : report request portZero =
    some ("ingress.annotations.10: 1 is not of type 'string'; "
      ++ "ingress.annotations.9: None is not of type 'string'; "
      ++ "loadBalancerArn: '' should be non-empty; "
      ++ "port: 'scheme' is a required property; "
      ++ "port.port: 0 is less than the minimum of 1") := by
  decide +kernel

theorem report_request_portZero : ¬IsRequest portZero ∧ ∃ breaches : List Breach,
    breaches ≠ [] ∧ breaches.Nodup ∧
    (∀ b, b ∈ breaches ↔ Breached requestRules portZero b) ∧
    breaches.Pairwise (fun b b' => b.path = b'.path ∨ b.path < b'.path) ∧
    report request portZero = some (String.intercalate "; " (breaches.map Breach.entry)) := by
  obtain ⟨hiff, hbreaches⟩ := report_request portZero_distinct
  have hrequest : ¬IsRequest portZero := by
    rw [← hiff, report_portZero]
    exact Option.some_ne_none _
  exact ⟨hrequest, hbreaches hrequest⟩

end Check

end AlbListener

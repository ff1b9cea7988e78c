import AlbListener.Proofs.Request.Load
import AlbListener.Yaml.Document

/-!
# The form of a YAML document

A request that is written in YAML is checked as it is, and then taken apart as JSON. What
passes its checks as YAML passes them as JSON: values that are no JSON value pass no check of
their sort, and members whose names are no texts are not looked at.

Results:
* `Carries.all`: a check of parts carries over to JSON if the parts do.
* `carries_request`: so does the check of a request.
* `Loaded.typed`: a request is of the declared sorts whatever it was written in.
-/

namespace AlbListener

open Yaml (Value)
open Yaml.Value (textMembers toJsonMembers toJsonAll)

namespace Yaml.Value

theorem toJsonMembers_eq (members : List (Value × Value)) :
    toJsonMembers members = (textMembers members).map fun m => (m.1, m.2.toJson) := by
  induction members with
  | nil => rfl
  | cons member rest ih =>
    obtain ⟨name, value⟩ := member
    cases name <;> simp [toJsonMembers, textMembers, ih]

theorem toJsonAll_eq (elements : List Value) : toJsonAll elements = elements.map toJson := by
  induction elements with
  | nil => rfl
  | cons value rest ih => rw [toJsonAll, ih, List.map_cons]

end Yaml.Value

namespace Check

/-- A check of YAML values carries over to JSON. -/
def Carries (check : Check Value) (check' : Check Json) : Prop :=
  ∀ value, check value = [] → check' value.toJson = []

/-- A check of YAML values of the sorts of JSON carries over to JSON. -/
def CarriesPart (check : Check Value) (check' : Check Json) : Prop :=
  ∀ value, (∃ form, isOf value form = true) → check value = [] → check' value.toJson = []

theorem isOf_toJson {value : Value} {form : Form} (h : isOf value form = true) :
    isOf value.toJson form = true := by
  cases value <;> cases form <;> first | exact h | cases h

/-- What a check of parts sees of a value is what it sees of the value as JSON. -/
theorem part_cases {value : Value} {form : Form} (h : isOf value form = true) :
    (∃ members, value = .mapping members ∧ value.toJson = .obj (toJsonMembers members)) ∨
    (∃ elements, value = .sequence elements ∧ value.toJson = .arr (toJsonAll elements)) ∨
    (∃ s, value = .text s ∧ value.toJson = .str s) ∨
    ∃ x, Document.shape value = .number x true ∧ Document.shape value.toJson = .number x true := by
  cases value with
  | mapping members => exact .inl ⟨members, rfl, rfl⟩
  | sequence elements => exact .inr (.inl ⟨elements, rfl, rfl⟩)
  | text s => exact .inr (.inr (.inl ⟨s, rfl, rfl⟩))
  | integer n => exact .inr (.inr (.inr ⟨_, rfl, rfl⟩))
  | number x =>
    cases form with
    | integer =>
      have hintegral : x.isIntegral = true := h
      exact .inr (.inr (.inr ⟨x.number, congrArg (Shape.number _) hintegral,
        congrArg (Shape.number _) hintegral⟩))
    | _ => cases h
  | _ => cases form <;> cases h

/-! ## Checks of sorts -/

theorem exists_of_ofForm {forms : List Form} {value : Value} (h : ofForm forms value = []) :
    ∃ form ∈ forms, isOf value form = true := by
  have hany : forms.any (isOf value) = true := by
    by_contra hnone
    exact List.cons_ne_nil _ _ ((if_neg hnone).symm.trans h)
  exact List.any_eq_true.mp hany

theorem carries_ofForm (forms : List Form) : Carries (ofForm forms) (ofForm forms) := by
  intro value h
  obtain ⟨form, hm, hform⟩ := exists_of_ofForm h
  exact ofForm_eq_nil_iff.mpr ⟨form, hm, isOf_toJson hform⟩

theorem carries_oneOf (texts : List String) : Carries (oneOf texts) (oneOf texts) := by
  intro value h
  cases value with
  | text s =>
    by_cases hm : texts.contains s = true
    · exact if_pos hm
    · cases (if_neg hm).symm.trans h
  | _ => cases h

/-! ## Checks of parts -/

/-- A check of parts carries over if it does for every sort of value that it may see. -/
theorem carriesPart_of {check : Check Value} {check' : Check Json}
    (hobject : ∀ members, check (.mapping members) = [] →
      check' (.obj (toJsonMembers members)) = [])
    (harray : ∀ elements, check (.sequence elements) = [] →
      check' (.arr (toJsonAll elements)) = [])
    (htext : ∀ s, check (.text s) = [] → check' (.str s) = [])
    (hnumber : ∀ value json x, Document.shape value = .number x true →
      Document.shape json = .number x true → check value = [] → check' json = []) :
    CarriesPart check check' := by
  rintro value ⟨form, hform⟩ h
  obtain ⟨_, rfl, hjson⟩ | ⟨_, rfl, hjson⟩ | ⟨_, rfl, hjson⟩ | ⟨x, hshape, hjson⟩ :=
    part_cases hform
  · exact hjson ▸ hobject _ h
  · exact hjson ▸ harray _ h
  · exact hjson ▸ htext _ h
  · exact hnumber value _ x hshape hjson h

theorem carriesPart_nonEmpty : CarriesPart nonEmpty nonEmpty :=
  carriesPart_of (fun _ _ => rfl) (fun _ _ => rfl) (fun _ h => h)
    fun _ _ _ _ hjson _ => by rw [nonEmpty, hjson]

theorem carriesPart_minimum (n : ℤ) : CarriesPart (minimum n) (minimum n) := by
  refine carriesPart_of (fun _ _ => rfl) (fun _ _ => rfl) (fun _ _ => rfl)
    fun value json x hshape hjson h => ?_
  rw [minimum, hshape] at h
  rw [minimum, hjson]
  by_cases hlow : x.lt (.ofInt n) = true
  · cases (if_pos hlow).symm.trans h
  · exact if_neg hlow

theorem carriesPart_maximum (n : ℤ) : CarriesPart (maximum n) (maximum n) := by
  refine carriesPart_of (fun _ _ => rfl) (fun _ _ => rfl) (fun _ _ => rfl)
    fun value json x hshape hjson h => ?_
  rw [maximum, hshape] at h
  rw [maximum, hjson]
  by_cases hhigh : Number.lt (.ofInt n) x = true
  · cases (if_pos hhigh).symm.trans h
  · exact if_neg hhigh

/-! ## Checks of members and elements -/

theorem get?_toJsonMembers (members : List (Value × Value)) (name : String) :
    Entries.get? (toJsonMembers members) name =
      (Entries.get? (textMembers members) name).map Value.toJson := by
  rw [Yaml.Value.toJsonMembers_eq, Entries.get?_map]

theorem carriesPart_required (names : List String) :
    CarriesPart (required names) (required names) := by
  refine carriesPart_of (fun members h => ?_) (fun _ _ => rfl) (fun _ _ => rfl)
    fun _ _ _ _ hjson _ => by rw [required, hjson]
  have hhas (name : String) :
      Entries.has (toJsonMembers members) name = Entries.has (textMembers members) name := by
    rw [Entries.has, get?_toJsonMembers, Option.isSome_map, Entries.has]
  rw [required, Document.shape_obj]
  simp only [hhas]
  exact h

theorem carriesPart_property (name : String) {check : Check Value} {check' : Check Json}
    (hc : Carries check check') : CarriesPart (property name check) (property name check') := by
  refine carriesPart_of (fun members h => ?_) (fun _ _ => rfl) (fun _ _ => rfl)
    fun _ _ _ _ hjson _ => by rw [property, hjson]
  have hshape : Document.shape (Value.mapping members) =
      .object (textMembers members) (members.map fun member => (member.1.steps, member.2)) := rfl
  rw [property, hshape] at h
  rw [property, Document.shape_obj]
  dsimp only at h ⊢
  rw [get?_toJsonMembers]
  cases hget : Entries.get? (textMembers members) name with
  | none => rfl
  | some found =>
    rw [hget] at h
    exact within_eq_nil_iff.mpr (hc found (within_eq_nil_iff.mp h))

theorem carriesPart_everyMember {check : Check Value} {check' : Check Json}
    (hc : Carries check check') : CarriesPart (everyMember check) (everyMember check') := by
  refine carriesPart_of (fun members h => ?_) (fun _ _ => rfl) (fun _ _ => rfl)
    fun _ _ _ _ hjson _ => by rw [everyMember, hjson]
  have hmembers : ∀ member ∈ members, check member.2 = [] := fun member hm =>
    within_eq_nil_iff.mp (List.flatMap_eq_nil_iff.mp h _ (List.mem_map_of_mem hm))
  rw [everyMember, Document.shape_obj, Yaml.Value.toJsonMembers_eq]
  simp only [List.flatMap_eq_nil_iff, List.forall_mem_map, within_eq_nil_iff]
  intro entry hentry
  obtain ⟨member, hm, hnamed⟩ := List.mem_filterMap.mp hentry
  obtain ⟨name, value⟩ := member
  cases name with
  | text name =>
    cases hnamed
    exact hc _ (hmembers _ hm)
  | _ => cases hnamed

theorem carriesPart_everyElement {check : Check Value} {check' : Check Json}
    (hc : Carries check check') : CarriesPart (everyElement check) (everyElement check') := by
  refine carriesPart_of (fun _ _ => rfl) (fun elements h => ?_) (fun _ _ => rfl)
    fun _ _ _ _ hjson _ => by rw [everyElement, hjson]
  have helements : ∀ element ∈ elements, check element = [] := by
    intro element hm
    obtain ⟨index, hlt, rfl⟩ := List.getElem_of_mem hm
    exact within_eq_nil_iff.mp (List.flatMap_eq_nil_iff.mp h _
      (List.mk_mem_zipIdx_iff_getElem?.mpr (List.getElem?_eq_getElem hlt)))
  rw [everyElement, Document.shape_arr, Yaml.Value.toJsonAll_eq]
  simp only [List.flatMap_eq_nil_iff, within_eq_nil_iff]
  intro entry hentry
  obtain ⟨element, hm, hsame⟩ := List.mem_map.mp (List.fst_mem_of_mem_zipIdx hentry)
  exact hsame ▸ hc element (helements element hm)

/-! ## Requests -/

/-- A check of a sort and of parts carries over to JSON if the checks of parts do. -/
theorem Carries.all (forms : List Form) {checks : List (Check Value)}
    {checks' : List (Check Json)} (h : List.Forall₂ CarriesPart checks checks') :
    Carries (all (ofForm forms :: checks)) (all (ofForm forms :: checks')) := by
  intro value hvalue
  simp only [all_eq_nil_iff, List.forall_mem_cons] at hvalue ⊢
  obtain ⟨hform, hparts⟩ := hvalue
  refine ⟨carries_ofForm forms value hform, ?_⟩
  have hpart : ∃ form, isOf value form = true :=
    (exists_of_ofForm hform).imp fun _ => And.right
  induction h with
  | nil => exact fun _ hm => by cases hm
  | cons hfirst _ ih =>
    obtain ⟨hhead, hrest⟩ := List.forall_mem_cons.mp hparts
    exact List.forall_mem_cons.mpr ⟨hfirst value hpart hhead, ih hrest⟩

theorem carries_text : Carries text text := .all _ (.cons carriesPart_nonEmpty .nil)

theorem carries_servicePort : Carries servicePort servicePort :=
  .all _ (.cons carriesPart_nonEmpty .nil)

theorem carries_backend : Carries backend backend :=
  .all _ (.cons (carriesPart_required _) (.cons (carriesPart_property _ carries_text)
    (.cons (carriesPart_property _ carries_servicePort) .nil)))

theorem carries_ingress : Carries ingress ingress := by
  have hannotations := Carries.all [.object]
    (.cons (carriesPart_everyMember (carries_ofForm [.string])) .nil)
  have hspec := Carries.all [.object] (.cons (carriesPart_property "backend" carries_backend)
    (.cons (carriesPart_property "rules" (carries_ofForm [.array])) .nil))
  exact .all _ (.cons (carriesPart_required _) (.cons (carriesPart_property _ carries_text)
    (.cons (carriesPart_property _ (carries_ofForm _)) (.cons (carriesPart_property _ hannotations)
      (.cons (carriesPart_property _ hspec) .nil)))))

theorem carries_listenerPort : Carries listenerPort listenerPort := by
  have hport := Carries.all [.integer]
    (.cons (carriesPart_minimum 1) (.cons (carriesPart_maximum 65535) .nil))
  exact .all _ (.cons (carriesPart_required _) (.cons (carriesPart_property _ hport)
    (.cons (carriesPart_property _ (carries_oneOf _)) .nil)))

theorem carries_targetGroup : Carries targetGroup targetGroup :=
  .all _ (.cons (carriesPart_required _) (.cons (carriesPart_property _ carries_text)
    (.cons (carriesPart_property _ carries_servicePort)
      (.cons (carriesPart_property _ carries_text) .nil))))

/-- A YAML document of the form of a request is one as JSON. -/
theorem carries_request : Carries request request := by
  have hgroups := Carries.all [.array] (.cons (carriesPart_everyElement carries_targetGroup) .nil)
  exact .all _ (.cons (carriesPart_required _) (.cons (carriesPart_property _ carries_text)
    (.cons (carriesPart_property _ carries_ingress)
      (.cons (carriesPart_property _ carries_listenerPort)
        (.cons (carriesPart_property _ hgroups) .nil)))))

end Check

namespace Request

variable {σ : Type} {s s' : σ} {request : Request}

/-- A request that is loaded from a YAML document is of the declared sorts. -/
theorem typed_of_load_yaml {document : Value} {keyPrefix : String} {instance? : Option Listener}
    (h : (load document keyPrefix instance?).ending s = (.ok request, s')) : request.Typed := by
  unfold load at h
  split at h
  · cases h
  · rename_i hreport
    have hcheck := Check.carries_request document (Check.report_eq_none_iff.mp hreport)
    exact typed_of_ofDocument hcheck h

/-- A request that is loaded, from a JSON document or from a YAML document. -/
inductive Loaded (request : Request) : Prop
  | json {document : Json} {keyPrefix : String} {instance? : Option Listener}
    (h : (load document keyPrefix instance? ()).result = .ok request) : Loaded request
  | yaml {document : Value} {keyPrefix : String} {instance? : Option Listener}
    (h : (load document keyPrefix instance? ()).result = .ok request) : Loaded request

theorem Loaded.typed (h : request.Loaded) : request.Typed := by
  cases h with
  | json h => exact typed_of_load (Prod.ext h rfl)
  | yaml h => exact typed_of_load_yaml (Prod.ext h rfl)

end Request

end AlbListener

import AlbListener.Proofs.Json.Twin
import AlbListener.Proofs.Yaml.Form

/-!
# Documents of any format that differ in few places

Documents of one format are twins if they are the same, or if they are objects whose members are
the same, except under some names, where the values are related in a way of their own. A check that
cannot tell the related values apart cannot tell the documents apart, and as JSON they are twins
too.

Results:
* `Document.TwinAt.toJson`: twins as JSON.
* `Check.required_of_twin`, `Check.property_of_twin`, `Check.everyMember_of_twin`: checks of the
  members of twins.
-/

namespace AlbListener

open Document (shape)

/-- A format whose objects and texts are objects and texts as JSON. -/
class LawfulDocument (α : Type) [Document α] : Prop where
  toJson_object : ∀ {value : α} {named members}, shape value = .object named members →
    Document.toJson value = .obj (named.map fun m => (m.1, Document.toJson m.2))
  toJson_text : ∀ {value : α} {s}, shape value = .text s → Document.toJson value = .str s

instance : LawfulDocument Json where
  toJson_object := fun {value named members} h => by
    cases value with
    | obj given =>
      cases h
      exact congrArg Json.obj (List.map_id _).symm
    | _ => cases h
  toJson_text := fun {value s} h => by
    cases value with
    | str given =>
      cases h
      rfl
    | _ => cases h

instance : LawfulDocument Yaml.Value where
  toJson_object := fun {value named members} h => by
    cases value with
    | mapping given =>
      cases h
      exact congrArg Json.obj (Yaml.Value.toJsonMembers_eq given)
    | _ => cases h
  toJson_text := fun {value s} h => by
    cases value with
    | text given =>
      cases h
      rfl
    | _ => cases h

variable {α : Type} [Document α]

/-- Documents that are the same, or objects that differ at most under some names. -/
inductive Document.TwinAt (special : String → Prop) (R : α → α → Prop) : α → α → Prop
  | refl (value : α) : TwinAt special R value value
  | object {value value' : α} {named named' : Entries α} {members members' : List (List String × α)}
      (hshape : shape value = .object named members)
      (hshape' : shape value' = .object named' members')
      (hnamed : MembersTwin special R named named')
      (hmembers : MembersTwin (fun _ => True) R members members') : TwinAt special R value value'

/-- Objects of JSON that differ at most under some names. -/
theorem Document.twinAt_obj {special : String → Prop} {R : Json → Json → Prop}
    {members members' : List (String × Json)} (h : MembersTwin special R members members') :
    TwinAt special R (.obj members) (.obj members') := by
  refine .object (shape_obj members) (shape_obj members') h ?_
  rw [MembersTwin, List.forall₂_map_left_iff, List.forall₂_map_right_iff]
  exact h.imp fun _ _ hm =>
    ⟨congrArg (fun name => [name]) hm.1, hm.2.imp_right fun h => ⟨trivial, h.2⟩⟩

variable {special : String → Prop} {R : α → α → Prop} {value value' : α}

/-- Twins as JSON. -/
theorem Document.TwinAt.toJson [LawfulDocument α] {Q : Json → Json → Prop}
    (h : TwinAt special R value value') (hR : ∀ v v', R v v' → Q (toJson v) (toJson v')) :
    Json.TwinAt special Q (toJson value) (toJson value') := by
  cases h with
  | refl => exact .refl _
  | object hshape hshape' hnamed _ =>
    rw [LawfulDocument.toJson_object hshape, LawfulDocument.toJson_object hshape']
    exact .obj (hnamed.map hR)

/-! ## Checks -/

namespace Check

open Document (TwinAt)

/-- A value that is an object is of no other sort, and no message shows it. -/
theorem ofForm_of_twin (h : TwinAt special R value value') :
    ofForm [.object] value = ofForm [.object] value' := by
  have hobject {v : α} {named members} (hs : shape v = .object named members) :
      ofForm [.object] v = [] := by
    have his : isOf v Form.object = true := by
      unfold isOf
      rw [hs]
    exact if_pos (List.any_eq_true.mpr ⟨Form.object, List.mem_singleton_self _, his⟩)
  cases h with
  | refl => rfl
  | object hshape hshape' _ _ => rw [hobject hshape, hobject hshape']

theorem required_of_twin (h : TwinAt special R value value') (names : List String) :
    required names value = required names value' := by
  cases h with
  | refl => rfl
  | object hshape hshape' hnamed _ =>
    unfold required
    rw [hshape, hshape']
    dsimp only
    simp only [hnamed.has]

/-- A check of a member, if it cannot tell values apart that may differ. -/
theorem property_of_twin (h : TwinAt special R value value') {name : String} {check : Check α}
    (hR : special name → ∀ v v', R v v' → check v = check v') :
    property name check value = property name check value' := by
  cases h with
  | refl => rfl
  | object hshape hshape' hnamed _ =>
    rename_i named named' _ _ _
    unfold property
    rw [hshape, hshape']
    dsimp only
    have hfound := hnamed.get? name
    generalize Entries.get? named name = found, Entries.get? named' name = found' at hfound
    cases hfound with
    | none => rfl
    | some hv => exact congrArg _ (hv.elim (congrArg check) fun h => hR h.1 _ _ h.2)

/-- A check of every member, if it cannot tell values apart that may differ. -/
theorem everyMember_of_twin (h : TwinAt special R value value') {check : Check α}
    (hR : ∀ v v', R v v' → check v = check v') :
    everyMember check value = everyMember check value' := by
  cases h with
  | refl => rfl
  | object hshape hshape' _ hmembers =>
    unfold everyMember
    rw [hshape, hshape']
    dsimp only
    rw [List.flatMap_def, List.flatMap_def, map_eq_of_related hmembers fun m m' hm => ?_]
    rw [hm.1, hm.2.elim (congrArg check) fun h => hR _ _ h.2]

omit [Document α] in
theorem all_congr {checks : List (Check α)} (h : ∀ check ∈ checks, check value = check value') :
    all checks value = all checks value' := List.flatMap_congr h

end Check

end AlbListener

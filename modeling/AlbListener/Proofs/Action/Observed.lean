import AlbListener.Proofs.Action.Alike

/-!
# Live actions and their documents

An action on a live listener is read back from the document that is written of it, whether it is
expressed or not. One that cannot be expressed is kept as its document without its place and with
sorted members. That document is refused again: neither the place nor the order of members decides
whether a document is refused.

Results:
* `unmanagedOf_eq`: the document that is kept, and that it is read back.
* `ofDocument_kept`: a document that was refused is refused again.
* `ofObserved_toApi`: a live action is read back.
-/

namespace AlbListener.Action

open Entries (get? erase)
open Json (Reordered)

variable {members : List (String × Json)}

/-- The members that are kept of an action that cannot be expressed. -/
def keptMembers (members : List (String × Json)) : List (String × Json) :=
  Json.sortMembers ((erase members "Order").map fun member => (member.1, member.2.sorted))

theorem distinct_erase (h : (Json.obj members).Distinct) (name : String) :
    (Json.obj (erase members name)).Distinct := by
  obtain ⟨hn, hv⟩ := Json.distinct_obj_iff.mp h
  exact .obj (hn.erase name) fun member hm => hv member (Entries.mem_of_mem_erase hm)

theorem floatless_erase (h : (Json.obj members).Floatless) (name : String) :
    (Json.obj (erase members name)).Floatless :=
  .obj fun member hm => Json.floatless_obj_iff.mp h member (Entries.mem_of_mem_erase hm)

theorem sorted_erase (members : List (String × Json)) :
    (Json.obj (erase members "Order")).sorted = .obj (keptMembers members) :=
  Json.sorted_obj _

/-- What is kept has no place. -/
theorem erase_keptMembers (members : List (String × Json)) :
    erase (keptMembers members) "Order" = keptMembers members := by
  refine List.filter_eq_self.mpr fun member hm => ?_
  obtain ⟨given, hg, rfl⟩ := Json.mem_sortMembers_map_iff.mp hm
  exact (List.mem_filter.mp hg).2

theorem get?_keptMembers (h : (Json.obj members).Distinct) {name : String} (hname : name ≠ "Order") :
    get? (keptMembers members) name = (get? members name).map Json.sorted := by
  rw [keptMembers, Json.get?_sorted ((Json.distinct_obj_iff.mp h).1.erase _),
    Entries.get?_erase_of_ne _ (Ne.symm hname)]

/-- The text of what is kept is read back. -/
theorem read_keptMembers (hd : (Json.obj members).Distinct) (hf : (Json.obj members).Floatless) :
    Json.read (Json.obj (erase members "Order")).sorted.render = .ok (.obj (keptMembers members)) := by
  rw [← sorted_erase]
  exact Json.read_render (Json.sorted_floatless (floatless_erase hf _))
    (Json.sorted_distinct (distinct_erase hd _))

/-- Whatever is known of settings, actions from reordered documents are actions. -/
theorem relates_true : Relates Reordered (fun _ => Reordered) fun _ _ => True where
  forward := fun _ => trivial
  fixedResponse := fun _ _ _ => trivial
  redirect := fun _ _ _ _ _ _ => trivial
  authenticate := fun h => h.toMembers.mono (fun _ _ => id) fun _ _ => id

/-- What is kept of a document is refused if the document is. -/
theorem ofDocument_kept (hd : (Json.obj members).Distinct) {reason : Invalid}
    (h : ofDocument (.obj members) = .error (.invalid reason)) :
    ∃ reason, ofDocument (.obj (keptMembers members)) = .error (.invalid reason) := by
  have hread : ReadAlike Reordered (fun _ => Reordered) members (keptMembers members) := by
    refine readAlike_of_reordered (fun name hname => ?_) fun _ _ _ => id
    rw [get?_keptMembers hd hname]
    cases hv : get? members name with
    | none => exact .none
    | some value => exact .some (Json.reordered_sorted (Json.get?_distinct hd hv))
  have halike := ofDocument_alike hread relates_true
  rw [h] at halike
  generalize ofDocument (.obj (keptMembers members)) = found at halike
  cases halike with
  | error hsort =>
    obtain ⟨reason, rfl⟩ := Fault.isInvalid_iff.mp hsort.symm
    exact ⟨reason, rfl⟩

/-- An action that cannot be expressed is read back from its document. -/
theorem ofObserved_toApi_unmanaged (hd : (Json.obj members).Distinct)
    (hf : (Json.obj members).Floatless)
    (ht : ∀ type, get? members "Type" = some type → ∃ s, type = .str s) {reason : Invalid}
    (h : ofDocument (.obj members) = .error (.invalid reason)) {a : Action}
    (ha : unmanagedOf (.obj members) = .ok a) : ofObserved a.toApi = .ok a := by
  obtain ⟨reason, hrefused⟩ := ofDocument_kept hd h
  have htype : ((get? (keptMembers members) "Type").getD .null).display =
      ((get? members "Type").getD .null).display := by
    rw [get?_keptMembers hd (by decide)]
    cases hv : get? members "Type" with
    | none => rfl
    | some type =>
      obtain ⟨s, rfl⟩ := ht type hv
      rfl
  have hkept : ((get? (erase members "Order") "Type").getD .null).display =
      ((get? members "Type").getD .null).display := by
    rw [Entries.get?_erase_of_ne _ (by decide)]
  cases ha
  rw [toApi, read_keptMembers hd hf]
  simp only [ofObserved, hrefused, unmanagedOf]
  rw [erase_keptMembers, htype, hkept, ← sorted_erase, Json.sorted_sorted]

/-- Live actions survive rendering: what is read of a document, on a live listener or elsewhere, is
    read again from what is written of it, with the same client secret, and is the same as itself. -/
theorem ofObserved_toApi (members : List (String × Json)) (hd : (Json.obj members).Distinct)
    (hf : (Json.obj members).Floatless)
    (ht : ∀ type, get? members "Type" = some type → ∃ s, type = .str s) :
    (∀ a, ofObserved (.obj members) = .ok a →
      ofObserved a.toApi = .ok a ∧ a.same a = true) ∧
    ∀ a, ofDocument (.obj members) = .ok a → ofDocument a.toApi = .ok a ∧ a.same a = true := by
  have hmanaged (a : Action) (h : ofDocument (.obj members) = .ok a) :
      ofDocument a.toApi = .ok a ∧ a.same a = true :=
    have hm := managed_of_ofDocument hd h
    ⟨ofDocument_toApi hm, hm.same_refl⟩
  refine ⟨fun a h => ?_, hmanaged⟩
  unfold ofObserved at h
  split at h
  · rename_i reason hrefused
    refine ⟨ofObserved_toApi_unmanaged hd hf ht hrefused h, ?_⟩
    cases h
    rw [same, beq_self_eq_true, beq_self_eq_true, Bool.and_self]
  · obtain ⟨hdocument, hsame⟩ := hmanaged a h
    exact ⟨ofObserved_eq_ofDocument hdocument, hsame⟩

/-- A forward to two target groups, which cannot be expressed. -/
def weightedForward : List (String × Json) :=
  [("Type", .str "forward"), ("Order", .int 2),
    ("ForwardConfig", .obj [("TargetGroups", .arr [
      .obj [("TargetGroupArn", .str "blue"), ("Weight", .int 9)],
      .obj [("TargetGroupArn", .str "green"), ("Weight", .int 1)]])])]

theorem ofObserved_toApi_weighted : ∃ a, ofObserved (.obj weightedForward) = .ok a ∧
    a.isUnmanaged = true ∧ ofObserved a.toApi = .ok a := by
  have hd : (Json.obj weightedForward).Distinct := by
    have hnumber (n : Int) : (Json.int n).Distinct := .plain rfl
    simp [weightedForward, Json.distinct_obj_iff, Json.distinct_arr_iff, Entries.Distinct,
      Entries.names, Json.distinct_str, hnumber]
  have hf : (Json.obj weightedForward).Floatless := by
    have htext (s : String) : (Json.str s).Floatless := .plain rfl fun _ h => by cases h
    have hnumber (n : Int) : (Json.int n).Floatless := .plain rfl fun _ h => by cases h
    simp [weightedForward, Json.floatless_obj_iff, Json.floatless_arr_iff, htext, hnumber]
  have ht : ∀ type, get? weightedForward "Type" = some type → ∃ s, type = .str s := by
    rintro _ ⟨⟩
    exact ⟨_, rfl⟩
  exact ⟨_, rfl, rfl, ((ofObserved_toApi weightedForward hd hf ht).1 _ rfl).1⟩

end AlbListener.Action

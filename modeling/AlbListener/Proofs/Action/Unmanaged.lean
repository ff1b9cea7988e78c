import AlbListener.Proofs.Action.Observed
import AlbListener.Proofs.Json.Rearranged

/-!
# Actions that cannot be expressed

An action that cannot be expressed is kept as a text, and its document is what that text is read as.
Only the place of the action is lost, and two such actions are the same exactly if their documents
are, up to their places and the order of members at any depth.

Results:
* `toApi_unmanagedOf`: the document of an action that is kept.
* `unmanaged_canonical`: nothing else than the place is lost, and nothing else than order is
  forgotten.
-/

namespace AlbListener.Action

open Entries (get? erase)
open Json (Rearranged)

variable {members members' : List (String × Json)}

/-- The document of an action that is kept is what was kept, without its place. -/
theorem toApi_unmanagedOf (hd : (Json.obj members).Distinct) (hf : (Json.obj members).Floatless)
    {a : Action} (h : unmanagedOf (.obj members) = .ok a) :
    Rearranged a.toApi (.obj (erase members "Order")) := by
  have hreordered := (Json.reordered_sorted (distinct_erase hd "Order")).symm
  rw [sorted_erase] at hreordered
  cases h
  rw [toApi, read_keptMembers hd hf]
  exact Json.rearranged_of_reordered hreordered

/-- A type that is a text does not depend on the order of members. -/
theorem type_of_rearranged (ht : ∀ type, get? members "Type" = some type → ∃ s, type = .str s)
    (h : Rearranged (.obj members) (.obj members')) :
    get? members "Type" = get? members' "Type" := by
  have htype := Json.rearranged_obj_iff.mp h "Type"
  generalize get? members "Type" = x, get? members' "Type" = y at htype ht
  cases htype with
  | none => rfl
  | some hxy =>
    obtain ⟨s, rfl⟩ := ht _ rfl
    rw [hxy.eq_of_plain rfl]

/-- A document that cannot be expressed is kept without loss but for its place, and in a form of
    which there is one for all documents that differ only in their places and in the order of
    members. Whole numbers and booleans stay apart, and a place further inside is a member like any
    other. -/
theorem unmanaged_canonical (hd : (Json.obj members).Distinct) (hd' : (Json.obj members').Distinct)
    (hf : (Json.obj members).Floatless) (hf' : (Json.obj members').Floatless)
    (ht : ∀ type, get? members "Type" = some type → ∃ s, type = .str s) :
    ∃ a b, unmanagedOf (.obj members) = .ok a ∧ unmanagedOf (.obj members') = .ok b ∧
      Rearranged a.toApi (.obj (erase members "Order")) ∧
      Rearranged b.toApi (.obj (erase members' "Order")) ∧
      (a.same b = true ↔
        Rearranged (.obj (erase members "Order")) (.obj (erase members' "Order"))) := by
  refine ⟨_, _, rfl, rfl, toApi_unmanagedOf hd hf rfl, toApi_unmanagedOf hd' hf' rfl, ?_⟩
  have htext := Json.render_sorted_eq_iff (distinct_erase hd "Order") (distinct_erase hd' "Order")
    (floatless_erase hf "Order") (floatless_erase hf' "Order")
  have htype : ∀ type, get? (erase members "Order") "Type" = some type → ∃ s, type = .str s := by
    rwa [Entries.get?_erase_of_ne _ (by decide)]
  rw [same, Bool.and_eq_true, beq_iff_eq, beq_iff_eq, htext]
  exact ⟨And.right, fun h => ⟨by rw [type_of_rearranged htype h], h⟩⟩

/-! ## A document and others like it -/

/-- A forward without target groups, at a place of its own and with a member of that name inside. -/
def stickyForward (sticky : Json) : List (String × Json) :=
  [("Type", .str "forward"), ("Order", .int 2),
    ("ForwardConfig", .obj [("Sticky", sticky), ("Order", .int 3), ("TargetGroups", .arr [])])]

/-- The same document at another place, with its members in another order. -/
def movedForward (sticky : Json) : List (String × Json) :=
  [("ForwardConfig", .obj [("TargetGroups", .arr []), ("Order", .int 3), ("Sticky", sticky)]),
    ("Order", .str "last"), ("Type", .str "forward")]

theorem distinct_stickyForward {sticky : Json} (h : sticky.Distinct) :
    (Json.obj (stickyForward sticky)).Distinct ∧ (Json.obj (movedForward sticky)).Distinct := by
  simp [stickyForward, movedForward, Json.distinct_obj_iff, Entries.Distinct, Entries.names,
    Json.distinct_arr_nil, Json.distinct_str, Json.distinct_int, h]

theorem floatless_stickyForward {sticky : Json} (h : sticky.Floatless) :
    (Json.obj (stickyForward sticky)).Floatless ∧ (Json.obj (movedForward sticky)).Floatless := by
  simp [stickyForward, movedForward, Json.floatless_obj_iff, Json.floatless_arr_iff,
    Json.floatless_str, Json.floatless_int, h]

/-- Neither the places nor the order of members tell two documents apart, but `true` and `1` do. -/
theorem unmanaged_canonical_sticky :
    ∃ a b c, unmanagedOf (.obj (stickyForward (.bool true))) = .ok a ∧
      unmanagedOf (.obj (movedForward (.bool true))) = .ok b ∧
      unmanagedOf (.obj (movedForward (.int 1))) = .ok c ∧ a.same b = true ∧ a.same c = false := by
  obtain ⟨hd, hd'⟩ := distinct_stickyForward (.plain rfl : (Json.bool true).Distinct)
  obtain ⟨hf, hf'⟩ := floatless_stickyForward
    (.plain rfl (fun _ h => by cases h) : (Json.bool true).Floatless)
  have hdOne := (distinct_stickyForward (Json.distinct_int 1)).2
  have hfOne := (floatless_stickyForward (Json.floatless_int 1)).2
  have ht : ∀ type, get? (stickyForward (.bool true)) "Type" = some type → ∃ s, type = .str s := by
    rintro _ ⟨⟩
    exact ⟨_, rfl⟩
  obtain ⟨a, b, ha, hb, -, -, hsame⟩ := unmanaged_canonical hd hd' hf hf' ht
  obtain ⟨a', c, ha', hc, -, -, hother⟩ := unmanaged_canonical hd hdOne hf hfOne ht
  obtain rfl : a = a' := Except.ok.inj (ha.symm.trans ha')
  refine ⟨a, b, c, ha, hb, hc, hsame.mpr ?_, Bool.eq_false_iff.mpr fun h => ?_⟩
  · exact Json.rearranged_of_reordered ⟨distinct_erase hd _, distinct_erase hd' _, rfl⟩
  · cases Json.rearranged_obj_iff.mp (hother.mp h) "ForwardConfig" with
    | some hconfig =>
      cases Json.rearranged_obj_iff.mp hconfig "Sticky" with
      | some hsticky => cases hsticky.eq_of_plain rfl

end AlbListener.Action

import AlbListener.Action.Document
import AlbListener.Proofs.Json

/-!
# Settings of authenticate actions

An authenticate action keeps its settings in a form of their own: the default ones filled in,
everything about the secret left out, and the members of objects in the order of their names
(`KeptSettings`). Settings in that form are left as they are when they are read again.

Results:
* `settled_settled`: members that are in order stay as they are.
* `keptSettings_of_given`: whatever is given, the settings kept have the form.
* `authenticateWith_settingsWithSecret`: what a provider call passes is read back.
-/

namespace AlbListener.Action

open Entries (Distinct names get? erase overlay)

/-! ## Members in order -/

theorem settledMembers_eq_map (members : List (String × Json)) :
    settledMembers members = members.map fun member => (member.1, settled member.2) := by
  induction members with
  | nil => rfl
  | cons member rest ih => rw [settledMembers, ih, List.map_cons]

theorem settled_of_not_obj {value : Json} (h : ∀ members, value ≠ .obj members) :
    settled value = value := by
  cases value with
  | obj members => exact absurd rfl (h members)
  | _ => rfl

theorem settledMembers_settledMembers {members : List (String × Json)}
    (h : ∀ member ∈ members, settled (settled member.2) = settled member.2) :
    settledMembers (settledMembers members) = settledMembers members := by
  simp only [settledMembers_eq_map, List.map_map]
  refine List.map_congr_left fun member hm => ?_
  rw [Function.comp_apply, h member hm]

theorem sortMembers_settledMembers (members : List (String × Json)) :
    Json.sortMembers (settledMembers members) = settledMembers (Json.sortMembers members) := by
  rw [settledMembers_eq_map, settledMembers_eq_map, Json.sortMembers_map]

theorem settled_settled (value : Json) : settled (settled value) = settled value := by
  induction value using Json.parts_induction with
  | plain value h => cases value <;> first | rfl | cases h
  | arr elements _ => rfl
  | obj members ih =>
    rw [settled, settled, ← sortMembers_settledMembers, settledMembers_settledMembers ih,
      Json.sortMembers_of_pairwise (Json.pairwise_sortMembers _)]

theorem names_settledMembers (members : List (String × Json)) :
    names (settledMembers members) = names members := by
  rw [settledMembers_eq_map, names, List.map_map]
  rfl

theorem distinct_settledMembers {members : List (String × Json)} (h : Distinct members) :
    Distinct (settledMembers members) := by
  rwa [Distinct, names_settledMembers]

theorem hereditary_settled {P : Json → Prop} (hP : Json.Hereditary P) {value : Json} (h : P value) :
    P (settled value) := by
  induction value using Json.parts_induction with
  | plain value hp =>
    rwa [settled_of_not_obj (by rintro members rfl; cases hp)]
  | arr elements _ => exact h
  | obj members ih =>
    obtain ⟨hn, hv⟩ := hP.obj_iff.mp h
    refine hP.obj_iff.mpr
      ⟨Json.distinct_sortMembers (distinct_settledMembers hn), fun member hm => ?_⟩
    rw [(Json.sortMembers_perm _).mem_iff, settledMembers_eq_map, List.mem_map] at hm
    obtain ⟨given, hg, rfl⟩ := hm
    exact ih given hg (hv given hg)

/-! ## The form in which settings are kept -/

/-- Settings as an authenticate action keeps them. -/
structure KeptSettings (settings : List (String × Json)) : Prop where
  inOrder : settings.Pairwise fun a b => textLe a.1 b.1
  distinct : (Json.obj settings).Distinct
  settled : ∀ setting ∈ settings, Action.settled setting.2 = setting.2
  defaults : ∀ setting ∈ defaultSettings, setting.1 ∈ names settings
  noSecret : secretName ∉ names settings
  noKeepSecret : keepSecretName ∉ names settings

theorem distinct_defaultSettings : Distinct defaultSettings := by
  rw [Distinct]; decide

/-- The settings in effect, without those about the secret. -/
def openSettings (given : List (String × Json)) : List (String × Json) :=
  erase (erase (effectiveSettings given) secretName) keepSecretName

theorem authenticateWith_eq (provider : Provider) (given : List (String × Json)) (secret : Json) :
    authenticateWith provider given secret =
      .authenticate provider (Json.sortMembers (settledMembers (openSettings given)))
        (if secret.isNull then (get? (effectiveSettings given) secretName).getD .null
          else secret) := rfl

theorem distinct_openSettings (given : List (String × Json)) : Distinct (openSettings given) :=
  ((distinct_defaultSettings.overlay given).erase _).erase _

theorem get?_openSettings {given : List (String × Json)} (hd : Distinct given) {name : String}
    (hs : name ≠ secretName) (hk : name ≠ keepSecretName) :
    get? (openSettings given) name = (get? given name).or (get? defaultSettings name) := by
  rw [openSettings, Entries.get?_erase_of_ne _ hk.symm, Entries.get?_erase_of_ne _ hs.symm,
    effectiveSettings, Entries.get?_overlay _ _ _ hd]

theorem secretName_not_mem_openSettings (given : List (String × Json)) :
    secretName ∉ names (openSettings given) := by
  rw [← Entries.get?_eq_none_iff, openSettings, Entries.get?_erase_of_ne _ (by decide),
    Entries.get?_erase_self]

theorem keepSecretName_not_mem_openSettings (given : List (String × Json)) :
    keepSecretName ∉ names (openSettings given) := by
  rw [← Entries.get?_eq_none_iff, openSettings, Entries.get?_erase_self]

theorem mem_names_openSettings_of_default {given : List (String × Json)}
    {setting : String × Json} (h : setting ∈ defaultSettings) :
    setting.1 ∈ names (openSettings given) := by
  have hs : setting.1 ≠ secretName ∧ setting.1 ≠ keepSecretName := by
    revert setting; decide
  have hm : setting.1 ∈ names (effectiveSettings given) :=
    Entries.mem_names_overlay_of_lower (Entries.mem_names_of_mem h)
  rw [← not_not (a := setting.1 ∈ _), ← Entries.get?_eq_none_iff] at hm ⊢
  rwa [openSettings, Entries.get?_erase_of_ne _ hs.2.symm, Entries.get?_erase_of_ne _ hs.1.symm]

theorem hereditary_openSettings {P : Json → Prop} (hP : Json.Hereditary P)
    {given : List (String × Json)} (h : ∀ setting ∈ given, P setting.2) :
    P (.obj (openSettings given)) := by
  refine hP.obj_iff.mpr ⟨distinct_openSettings given, fun setting hm => ?_⟩
  rcases Entries.mem_overlay (Entries.mem_of_mem_erase (Entries.mem_of_mem_erase hm)) with hl | hr
  · simp only [defaultSettings, List.mem_cons, List.not_mem_nil, or_false] at hl
    rcases hl with rfl | rfl | rfl | rfl <;> exact hP.plain rfl fun _ h => by cases h
  · exact h setting hr

theorem mem_names_sorted {members : List (String × Json)} {name : String} :
    name ∈ names (Json.sortMembers (settledMembers members)) ↔ name ∈ names members := by
  rw [← names_settledMembers members]
  exact ((Json.sortMembers_perm _).map Prod.fst).mem_iff

/-- The settings that are kept have the form in which settings are kept. -/
theorem keptSettings_of_given {given : List (String × Json)}
    (h : ∀ setting ∈ given, setting.2.Distinct) :
    KeptSettings (Json.sortMembers (settledMembers (openSettings given))) where
  inOrder := Json.pairwise_sortMembers _
  distinct := hereditary_settled Json.hereditary_distinct
    (hereditary_openSettings Json.hereditary_distinct h)
  settled := by
    intro setting hm
    rw [(Json.sortMembers_perm _).mem_iff, settledMembers_eq_map, List.mem_map] at hm
    obtain ⟨given, -, rfl⟩ := hm
    exact settled_settled given.2
  defaults := fun _ hm => mem_names_sorted.mpr (mem_names_openSettings_of_default hm)
  noSecret := fun hm => secretName_not_mem_openSettings given (mem_names_sorted.mp hm)
  noKeepSecret := fun hm => keepSecretName_not_mem_openSettings given (mem_names_sorted.mp hm)

/-! ## Kept settings are read back -/

theorem settledMembers_of_kept {settings : List (String × Json)} (h : KeptSettings settings) :
    settledMembers settings = settings := by
  rw [settledMembers_eq_map]
  refine (List.map_congr_left fun setting hm => ?_).trans (List.map_id settings)
  rw [h.settled setting hm]
  rfl

/-- Kept settings that are given again, with more about the secret, are what is kept. -/
theorem openSettings_of_kept {settings more : List (String × Json)} (h : KeptSettings settings)
    (hd : Distinct (settings ++ more))
    (hmore : ∀ setting ∈ more, setting.1 = secretName ∨ setting.1 = keepSecretName) :
    Json.sortMembers (settledMembers (openSettings (settings ++ more))) = settings := by
  have hs : Distinct settings := (Json.distinct_obj_iff.mp h.distinct).1
  have hget (name : String) :
      get? (openSettings (settings ++ more)) name = get? settings name := by
    by_cases hn : name = secretName
    · subst hn
      rw [Entries.get?_eq_none_iff.mpr h.noSecret,
        Entries.get?_eq_none_iff.mpr (secretName_not_mem_openSettings _)]
    by_cases hk : name = keepSecretName
    · subst hk
      rw [Entries.get?_eq_none_iff.mpr h.noKeepSecret,
        Entries.get?_eq_none_iff.mpr (keepSecretName_not_mem_openSettings _)]
    have hm : get? more name = none := by
      rw [Entries.get?_eq_none_iff, Entries.mem_names_iff]
      rintro ⟨value, hv⟩
      rcases hmore _ hv with e | e
      · exact hn e
      · exact hk e
    rw [get?_openSettings hd hn hk, Entries.get?_append, hm, Option.or_none]
    -- a default setting counts only where none is kept, and there is one for each default
    cases hv : get? settings name with
    | some value => rfl
    | none =>
      rw [Option.none_or, Entries.get?_eq_none_iff, Entries.mem_names_iff]
      rintro ⟨value, hdefault⟩
      exact Entries.get?_eq_none_iff.mp hv (h.defaults _ hdefault)
  have hp := Entries.perm_of_get?_eq (distinct_openSettings _) hs hget
  rw [sortMembers_settledMembers, Json.sortMembers_eq_of_perm (distinct_openSettings _) hp,
    Json.sortMembers_of_pairwise h.inOrder, settledMembers_of_kept h]

theorem distinct_append_setting {settings : List (String × Json)} (hd : Distinct settings)
    {name : String} (hn : name ∉ names settings) (value : Json) :
    Distinct (settings ++ [(name, value)]) := by
  rw [Distinct, Entries.names_append]
  exact List.nodup_append'.mpr ⟨hd, List.nodup_singleton _, List.disjoint_singleton.mpr hn⟩

/-- What a provider call passes as settings says the same as the settings and the secret. -/
theorem settingsWithSecret_eq (provider : Provider) (settings : List (String × Json))
    (secret : Json) :
    settingsWithSecret provider settings secret = settings ++
      (if !secret.isNull then [(secretName, secret)]
        else if provider = .oidc then [(keepSecretName, .bool true)] else []) := by
  unfold settingsWithSecret
  split_ifs <;> simp

theorem distinct_settingsWithSecret {settings : List (String × Json)} (h : KeptSettings settings)
    (provider : Provider) (secret : Json) :
    Distinct (settingsWithSecret provider settings secret) := by
  have hs : Distinct settings := (Json.distinct_obj_iff.mp h.distinct).1
  rw [settingsWithSecret_eq]
  split_ifs
  · exact distinct_append_setting hs h.noSecret _
  · exact distinct_append_setting hs h.noKeepSecret _
  · rwa [List.append_nil]

theorem get?_settingsWithSecret {settings : List (String × Json)} (h : KeptSettings settings)
    (provider : Provider) (secret : Json) :
    (get? (settingsWithSecret provider settings secret) secretName).getD .null = secret := by
  rw [settingsWithSecret_eq, Entries.get?_append, Entries.get?_eq_none_iff.mpr h.noSecret,
    Option.none_or]
  cases secret with
  | null => cases provider <;> rfl
  | _ => rfl

/-- Kept settings with their secret are read back as they were passed. -/
theorem authenticateWith_settingsWithSecret {settings : List (String × Json)}
    (h : KeptSettings settings) (provider : Provider) (secret : Json) :
    authenticateWith provider (settingsWithSecret provider settings secret) .null =
      .authenticate provider settings secret := by
  have hd := distinct_settingsWithSecret h provider secret
  have hsecret : get? (effectiveSettings (settingsWithSecret provider settings secret)) secretName
      = get? (settingsWithSecret provider settings secret) secretName := by
    rw [effectiveSettings, Entries.get?_overlay _ _ _ hd]
    exact Option.or_none
  rw [authenticateWith_eq, if_pos (show Json.null.isNull = true from rfl), hsecret,
    get?_settingsWithSecret h]
  rw [settingsWithSecret_eq] at hd ⊢
  rw [openSettings_of_kept h hd]
  intro setting hm
  split_ifs at hm
  · exact .inl (by rw [List.mem_singleton.mp hm])
  · exact .inr (by rw [List.mem_singleton.mp hm])
  · cases hm

end AlbListener.Action

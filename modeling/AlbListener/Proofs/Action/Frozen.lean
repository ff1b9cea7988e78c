import AlbListener.Proofs.Action.Spelling
import AlbListener.Proofs.Json.Agreement

/-!
# Stored settings

An authenticate action stores its settings as pairs in the order of their names: an object is frozen
to pairs, at every depth but inside arrays, and thawed where the settings are asked for. Stored pairs
are compared one after the other, but what they are frozen from is compared as a mapping, so that
the order in which settings are given makes no difference.

Results:
* `thaw_freeze`: what is frozen can be thawed.
* `freeze_same_iff`: values are frozen to the same exactly if they are equal.
* `authenticate_by_settings`: authenticate actions are compared by their settings in effect, and
  built again from what they store.
-/

namespace AlbListener

open Entries (Distinct get? names)

namespace Action

open Json (Agrees Rearranged)

/-! ## Freezing and thawing -/

/-- A setting as it is stored: the pairs that an object is frozen to, or any other value. -/
inductive Frozen
  | leaf (value : Json)
  | pairs (pairs : List (String × Frozen))

/-- Pairs in the order of their names. -/
def sortPairs (pairs : List (String × Frozen)) : List (String × Frozen) :=
  sortBy (fun a b => textLe a.1 b.1) pairs

mutual

/-- A setting as it is stored. -/
def freeze : Json → Frozen
  | .obj members => .pairs (sortPairs (freezeMembers members))
  | value => .leaf value

/-- Every setting as it is stored. -/
def freezeMembers : List (String × Json) → List (String × Frozen)
  | [] => []
  | (name, value) :: rest => (name, freeze value) :: freezeMembers rest

end

mutual

/-- The setting that a stored one stands for. -/
def thaw : Frozen → Json
  | .leaf value => value
  | .pairs pairs => .obj (Entries.ofPairs (thawMembers pairs))

/-- The settings that stored ones stand for. -/
def thawMembers : List (String × Frozen) → List (String × Json)
  | [] => []
  | (name, value) :: rest => (name, thaw value) :: thawMembers rest

end

/-- Settings as they are stored. -/
def freezePairs (settings : List (String × Json)) : List (String × Frozen) :=
  sortPairs (freezeMembers settings)

/-- The settings that stored pairs stand for. -/
def thawPairs (pairs : List (String × Frozen)) : List (String × Json) :=
  Entries.ofPairs (thawMembers pairs)

mutual

/-- Whether two stored settings are the same; pairs are compared one after the other. -/
def Frozen.same : Frozen → Frozen → Bool
  | .leaf a, .leaf b => Json.same a b
  | .pairs as, .pairs bs => samePairs as bs
  | _, _ => false

/-- Whether two lists hold the same pairs in the same order. -/
def samePairs : List (String × Frozen) → List (String × Frozen) → Bool
  | [], [] => true
  | (name, a) :: as, (name', b) :: bs => name == name' && Frozen.same a b && samePairs as bs
  | _, _ => false

end

theorem freezeMembers_eq_map (members : List (String × Json)) :
    freezeMembers members = members.map fun member => (member.1, freeze member.2) := by
  induction members with
  | nil => rfl
  | cons member rest ih => rw [freezeMembers, ih, List.map_cons]

theorem thawMembers_eq_map (pairs : List (String × Frozen)) :
    thawMembers pairs = pairs.map fun pair => (pair.1, thaw pair.2) := by
  induction pairs with
  | nil => rfl
  | cons pair rest ih => rw [thawMembers, ih, List.map_cons]

theorem freezePairs_eq_map (settings : List (String × Json)) : freezePairs settings =
    (Json.sortMembers settings).map fun setting => (setting.1, freeze setting.2) := by
  rw [freezePairs, sortPairs, freezeMembers_eq_map, sortBy_map]
  rfl

theorem freeze_obj (members : List (String × Json)) :
    freeze (.obj members) = .pairs (freezePairs members) := by rw [freeze, freezePairs]

theorem thaw_pairs (pairs : List (String × Frozen)) :
    thaw (.pairs pairs) = .obj (thawPairs pairs) := by rw [thaw, thawPairs]

theorem freeze_of_not_obj {value : Json} (h : ∀ members, value ≠ .obj members) :
    freeze value = .leaf value := by
  cases value with
  | obj members => exact absurd rfl (h members)
  | _ => rfl

/-! ## What is frozen can be thawed -/

/-- Settings that are frozen and thawed have the members of their objects in order. -/
theorem thawPairs_freezePairs_of_values {settings : List (String × Json)} (hd : Distinct settings)
    (h : ∀ setting ∈ settings, thaw (freeze setting.2) = settled setting.2) :
    thawPairs (freezePairs settings) = Json.sortMembers (settledMembers settings) := by
  have hvalues : thawMembers (freezePairs settings) = settledMembers (Json.sortMembers settings) := by
    rw [freezePairs_eq_map, thawMembers_eq_map, List.map_map, settledMembers_eq_map]
    refine List.map_congr_left fun setting hm => ?_
    rw [Function.comp_apply, h setting ((Json.sortMembers_perm settings).mem_iff.mp hm)]
  rw [thawPairs, hvalues, Entries.ofPairs_of_distinct
    (distinct_settledMembers (Json.distinct_sortMembers hd)), sortMembers_settledMembers]

theorem thaw_freeze {value : Json} (h : value.Distinct) : thaw (freeze value) = settled value := by
  induction h with
  | @plain value hp =>
    rw [freeze_of_not_obj (by rintro members rfl; cases hp), thaw,
      settled_of_not_obj (by rintro members rfl; cases hp)]
  | arr _ _ => rfl
  | obj hn _ ih =>
    rw [freeze_obj, thaw_pairs, thawPairs_freezePairs_of_values hn ih, settled]

theorem thawPairs_freezePairs {settings : List (String × Json)} (h : (Json.obj settings).Distinct) :
    thawPairs (freezePairs settings) = Json.sortMembers (settledMembers settings) := by
  obtain ⟨hd, hv⟩ := Json.distinct_obj_iff.mp h
  exact thawPairs_freezePairs_of_values hd fun setting hm => thaw_freeze (hv setting hm)

theorem freezePairs_settled_of_values {settings : List (String × Json)}
    (h : ∀ setting ∈ settings, freeze (settled setting.2) = freeze setting.2) :
    freezePairs (Json.sortMembers (settledMembers settings)) = freezePairs settings := by
  rw [freezePairs_eq_map, Json.sortMembers_of_pairwise (Json.pairwise_sortMembers _),
    sortMembers_settledMembers, settledMembers_eq_map, List.map_map, freezePairs_eq_map]
  refine List.map_congr_left fun setting hm => ?_
  rw [Function.comp_apply, h setting ((Json.sortMembers_perm settings).mem_iff.mp hm)]

theorem freeze_settled (value : Json) : freeze (settled value) = freeze value := by
  induction value using Json.parts_induction with
  | plain value hp => rw [settled_of_not_obj (by rintro members rfl; cases hp)]
  | arr elements _ => rfl
  | obj members ih => rw [settled, freeze_obj, freeze_obj, freezePairs_settled_of_values ih]

theorem freezePairs_settled (settings : List (String × Json)) :
    freezePairs (Json.sortMembers (settledMembers settings)) = freezePairs settings :=
  freezePairs_settled_of_values fun setting _ => freeze_settled setting.2

/-! ## Comparing what is frozen -/

theorem samePairs_eq_true_iff {as bs : List (String × Frozen)} : samePairs as bs = true ↔
    List.Forall₂ (fun a b => a.1 = b.1 ∧ a.2.same b.2 = true) as bs := by
  induction as generalizing bs with
  | nil => cases bs <;> simp [samePairs]
  | cons a as ih =>
    cases bs with
    | nil => simp [samePairs]
    | cons b bs =>
      rw [samePairs, Bool.and_eq_true, Bool.and_eq_true, beq_iff_eq, ih, List.forall₂_cons]

theorem samePairs_iff_of_values {xs ys : List (String × Json)} (hx : Distinct xs)
    (hy : Distinct ys)
    (h : ∀ x ∈ xs, ∀ y ∈ ys, (freeze x.2).same (freeze y.2) = true ↔ Agrees x.2 y.2) :
    samePairs (freezePairs xs) (freezePairs ys) = true ↔ Agrees (.obj xs) (.obj ys) := by
  have hinner : List.Forall₂ (fun x y : String × Json =>
        x.1 = y.1 ∧ (freeze x.2).same (freeze y.2) = true) (Json.sortMembers xs) (Json.sortMembers ys) ↔
      ∀ name, Option.Rel (fun x y => (freeze x).same (freeze y) = true)
        (get? (Json.sortMembers xs) name) (get? (Json.sortMembers ys) name) :=
    Entries.forall₂_iff_rel_get? (R := fun x y => (freeze x).same (freeze y) = true)
      (Json.distinct_sortMembers hx) (Json.pairwise_sortMembers xs) (Json.distinct_sortMembers hy)
      (Json.pairwise_sortMembers ys)
  rw [samePairs_eq_true_iff, freezePairs_eq_map, freezePairs_eq_map, List.forall₂_map_left_iff,
    List.forall₂_map_right_iff, hinner, Json.agrees_obj_iff]
  refine forall_congr' fun name => ?_
  rw [← Entries.get?_eq_of_perm hx (Json.sortMembers_perm xs).symm,
    ← Entries.get?_eq_of_perm hy (Json.sortMembers_perm ys).symm]
  exact ⟨fun hr => Json.rel_of_forall hr fun x y hx hy =>
      (h _ (Entries.mem_of_get? hx) _ (Entries.mem_of_get? hy)).mp,
    fun hr => Json.rel_of_forall hr fun x y hx hy =>
      (h _ (Entries.mem_of_get? hx) _ (Entries.mem_of_get? hy)).mpr⟩

theorem freeze_same_iff_of_not_obj {a b : Json} (ha : a.Distinct) (hb : b.Distinct)
    (h : ∀ members, a ≠ .obj members) : (freeze a).same (freeze b) = true ↔ Agrees a b := by
  rw [← Json.same_iff_agrees ha hb, freeze_of_not_obj h]
  cases b with
  | obj ys =>
    rw [freeze_obj]
    refine iff_of_false (by rintro ⟨⟩) ?_
    cases a with
    | obj members => exact absurd rfl (h members)
    | _ => rintro ⟨⟩
  | _ => exact Iff.rfl

/-- Values are frozen to the same exactly if they are equal. -/
theorem freeze_same_iff {a b : Json} (ha : a.Distinct) (hb : b.Distinct) :
    (freeze a).same (freeze b) = true ↔ Agrees a b := by
  induction ha generalizing b with
  | plain hp => exact freeze_same_iff_of_not_obj (.plain hp) hb (by rintro members rfl; cases hp)
  | arr h _ => exact freeze_same_iff_of_not_obj (.arr h) hb fun _ => nofun
  | obj hn _ ih =>
    cases b with
    | obj ys =>
      obtain ⟨hyn, hyv⟩ := Json.distinct_obj_iff.mp hb
      rw [freeze_obj, freeze_obj, Frozen.same]
      exact samePairs_iff_of_values hn hyn fun x hx y hy => ih x hx (hyv y hy)
    | _ =>
      rw [freeze_obj]
      exact iff_of_false (by rintro ⟨⟩) (by rintro (_ | _ | ⟨⟨⟩⟩ | _ | _))

/-- Pairs are the same one after the other exactly if the settings are equal as mappings. -/
theorem samePairs_freezePairs_iff {xs ys : List (String × Json)} (hx : (Json.obj xs).Distinct)
    (hy : (Json.obj ys).Distinct) :
    samePairs (freezePairs xs) (freezePairs ys) = true ↔ Agrees (.obj xs) (.obj ys) := by
  rw [← freeze_same_iff hx hy, freeze_obj, freeze_obj, Frozen.same]

/-! ## Authenticate actions -/

/-- The setting in effect under a name: the one given, or else the default one. None of those about
    the secret is in effect. -/
def effective? (given : List (String × Json)) (name : String) : Option Json :=
  if name = secretName ∨ name = keepSecretName then none
  else (get? given name).or (get? defaultSettings name)

/-- The secret that an action keeps: the one given by itself, or else the one among the settings. -/
def keptSecret (given : List (String × Json)) (secret : Json) : Json :=
  if secret.isNull then (get? given secretName).getD .null else secret

/-- An authenticate action with settings given and a secret, and the pairs that it stores. -/
structure Stores (provider : Provider) (given : List (String × Json)) (secret : Json)
    (pairs : List (String × Frozen)) (action : Action) : Prop where
  built : authenticateFrom (.str provider.name) (.obj given) secret = .ok action
  action : action = .authenticate provider (thawPairs pairs) (keptSecret given secret)
  frozen : freezePairs (thawPairs pairs) = pairs
  settings : ∀ name, Option.Rel Rearranged (get? (thawPairs pairs) name) (effective? given name)

theorem get?_openSettings_eq {given : List (String × Json)} (hd : Distinct given) (name : String) :
    get? (openSettings given) name = effective? given name := by
  unfold effective?
  split_ifs with h
  · rcases h with rfl | rfl
    · exact Entries.get?_eq_none_iff.mpr (secretName_not_mem_openSettings given)
    · exact Entries.get?_eq_none_iff.mpr (keepSecretName_not_mem_openSettings given)
  · obtain ⟨hs, hk⟩ := not_or.mp h
    exact get?_openSettings hd hs hk

theorem keptSecret_eq {given : List (String × Json)} (hd : Distinct given) (secret : Json) :
    (if secret.isNull then (get? (effectiveSettings given) secretName).getD .null else secret) =
      keptSecret given secret := by
  have hdefault : get? defaultSettings secretName = none := rfl
  rw [effectiveSettings, Entries.get?_overlay _ _ _ hd, hdefault, Option.or_none, keptSecret]

theorem distinct_openSettings_values {given : List (String × Json)}
    (h : (Json.obj given).Distinct) : (Json.obj (openSettings given)).Distinct :=
  hereditary_openSettings Json.hereditary_distinct (Json.distinct_obj_iff.mp h).2

theorem distinct_thawPairs {given : List (String × Json)} (h : (Json.obj given).Distinct) :
    (Json.obj (thawPairs (freezePairs (openSettings given)))).Distinct := by
  rw [thawPairs_freezePairs (distinct_openSettings_values h)]
  exact (keptSettings_of_given (Json.distinct_obj_iff.mp h).2).distinct

theorem providerOf_name (provider : Provider) : providerOf (.str provider.name) = .ok provider := by
  cases provider <;> rfl

theorem authenticateFrom_name (provider : Provider) (given : List (String × Json)) (secret : Json) :
    authenticateFrom (.str provider.name) (.obj given) secret =
      .ok (authenticateWith provider given secret) := by
  rw [authenticateFrom, bind_of_eq_ok (providerOf_name provider),
    bind_of_eq_ok (Json.toMembers_obj given)]
  rfl

/-- What an authenticate action stores. -/
theorem stores (provider : Provider) {given : List (String × Json)} (h : (Json.obj given).Distinct)
    (secret : Json) : Stores provider given secret (freezePairs (openSettings given))
      (authenticateWith provider given secret) := by
  have hopen := distinct_openSettings_values h
  have hd := (Json.distinct_obj_iff.mp h).1
  have hthawed := thawPairs_freezePairs hopen
  refine ⟨authenticateFrom_name provider given secret, ?_, ?_, fun name => ?_⟩
  · rw [authenticateWith_eq, hthawed, keptSecret_eq hd]
  · rw [hthawed, freezePairs_settled]
  · rw [hthawed, ← get?_openSettings_eq hd]
    exact Json.rearranged_obj_iff.mp (Json.rearranged_of_reordered (reordered_settled hopen)) name

theorem sorted_openSettings_of_kept {settings : List (String × Json)} (h : KeptSettings settings) :
    Json.sortMembers (settledMembers (openSettings settings)) = settings := by
  have hd := (Json.distinct_obj_iff.mp h.distinct).1
  have hopen : Json.sortMembers (settledMembers (openSettings (settings ++ []))) = settings :=
    openSettings_of_kept h (by rwa [List.append_nil]) nofun
  rwa [List.append_nil] at hopen

theorem keptSecret_of_kept {settings : List (String × Json)} (h : KeptSettings settings)
    (secret : Json) : keptSecret settings secret = secret := by
  rw [keptSecret, Entries.get?_eq_none_iff.mpr h.noSecret]
  split_ifs with hnull
  · exact (Json.isNull_iff.mp hnull).symm
  · rfl

/-- Kept settings are stored as they are. -/
theorem stores_of_kept (provider : Provider) {settings : List (String × Json)}
    (h : KeptSettings settings) (secret : Json) : Stores provider settings secret
      (freezePairs settings) (.authenticate provider settings secret) := by
  have hpairs := freezePairs_settled (openSettings settings)
  rw [sorted_openSettings_of_kept h] at hpairs
  have hstores := stores provider h.distinct secret
  rwa [authenticateWith_eq, sorted_openSettings_of_kept h,
    keptSecret_eq (Json.distinct_obj_iff.mp h.distinct).1, keptSecret_of_kept h, ← hpairs] at hstores

/-- What an action stores it stores again when it is built of it. -/
theorem stores_again (provider : Provider) {given : List (String × Json)}
    (h : (Json.obj given).Distinct) (secret : Json) :
    Stores provider (thawPairs (freezePairs (openSettings given))) (keptSecret given secret)
      (freezePairs (openSettings given)) (authenticateWith provider given secret) := by
  have hkept := keptSettings_of_given (Json.distinct_obj_iff.mp h).2
  have hstores := stores_of_kept provider hkept (keptSecret given secret)
  rwa [thawPairs_freezePairs (distinct_openSettings_values h), authenticateWith_eq,
    keptSecret_eq (Json.distinct_obj_iff.mp h).1, ← freezePairs_settled (openSettings given)]

/-- Authenticate actions are compared by their providers and their settings in effect, as mappings,
    for which the pairs that they store are compared one after the other. An action that is built
    of what it stores is the same, with the same pairs and the same secret. -/
theorem authenticate_by_settings (provider provider' : Provider) {given given' : List (String × Json)}
    (secret secret' : Json) (h : (Json.obj given).Distinct) (h' : (Json.obj given').Distinct) :
    ∃ pairs pairs' action action', Stores provider given secret pairs action ∧
      Stores provider' given' secret' pairs' action' ∧
      (action.same action' = true ↔
        provider = provider' ∧ Agrees (.obj (thawPairs pairs)) (.obj (thawPairs pairs'))) ∧
      action.same action' = (provider == provider' && samePairs pairs pairs') ∧
      Stores provider (thawPairs pairs) (keptSecret given secret) pairs action ∧
      action.same action = true := by
  have hstores := stores provider h secret
  have hstores' := stores provider' h' secret'
  have hsettings := distinct_thawPairs h
  have hsettings' := distinct_thawPairs h'
  have hpairs := samePairs_freezePairs_iff hsettings hsettings'
  rw [hstores.frozen, hstores'.frozen, ← Json.same_iff_agrees hsettings hsettings',
    ← Bool.eq_iff_iff] at hpairs
  refine ⟨_, _, _, _, hstores, hstores', ?_, ?_, stores_again provider h secret, ?_⟩
  · rw [hstores.action, hstores'.action, same, Bool.and_eq_true, beq_iff_eq,
      Json.same_iff_agrees hsettings hsettings']
  · rw [hstores.action, hstores'.action, same, hpairs]
  · rw [hstores.action, same_authenticate, Json.same_refl hsettings]

/-- What two actions thaw is equal exactly if the settings in effect are equal. -/
theorem Stores.agrees_iff {provider provider' : Provider} {given given' : List (String × Json)}
    {secret secret' : Json} {pairs pairs' : List (String × Frozen)} {action action' : Action}
    (h : Stores provider given secret pairs action)
    (h' : Stores provider' given' secret' pairs' action') :
    Agrees (.obj (thawPairs pairs)) (.obj (thawPairs pairs')) ↔
      ∀ name, Option.Rel Agrees (effective? given name) (effective? given' name) := by
  rw [Json.agrees_obj_iff]
  exact forall_congr' fun name => Agrees.rel_congr (h.settings name) (h'.settings name)

/-! ## Two ways to give the same settings -/

/-- Settings with nested parameters. Their secret is given among them or left to the provider. -/
def nestedSettings (secret : String × Json) (parameters : List (String × Json)) :
    List (String × Json) :=
  [secret, ("Scope", .str "openid"), ("AuthenticationRequestExtraParams", .obj parameters)]

/-- Parameters with objects in arrays. -/
def promptParameters : List (String × Json) :=
  [("prompt", .str "login"), ("claims", .arr [.obj [("b", .int 1), ("a", .null)], .obj []])]

/-- The same parameters in another order, with a number written in another way. -/
def respelledParameters : List (String × Json) :=
  [("claims", .arr [.obj [("a", .null), ("b", .bool true)], .obj []]), ("prompt", .str "login")]

theorem distinct_nestedSettings {secret : String × Json} {parameters : List (String × Json)}
    (hn : secret.1 ∉ ["Scope", "AuthenticationRequestExtraParams"]) (hs : secret.2.Distinct)
    (hp : (Json.obj parameters).Distinct) : (Json.obj (nestedSettings secret parameters)).Distinct := by
  have hnames : Distinct (nestedSettings secret parameters) := by
    rw [Distinct, names]
    simp_all [nestedSettings]
  refine .obj hnames (List.forall_mem_cons.mpr ⟨hs, List.forall_mem_cons.mpr ⟨?_, ?_⟩⟩)
  · exact Json.distinct_str _
  · exact List.forall_mem_singleton.mpr hp

/-- Neither the parameters nor what is about the secret matter for the other settings in effect. -/
theorem effective?_nestedSettings {secret : String × Json} (parameters : List (String × Json))
    (hs : secret.1 = secretName ∨ secret.1 = keepSecretName) {name : String}
    (hname : name ≠ "AuthenticationRequestExtraParams") :
    effective? (nestedSettings secret parameters) name =
      effective? [("Scope", .str "openid")] name := by
  unfold effective?
  split_ifs with h
  · rfl
  · have hsecret : secret.1 ≠ name := by
      rintro rfl
      exact h hs
    have hget : get? (nestedSettings secret parameters) name =
        get? [("Scope", .str "openid")] name := by
      rw [nestedSettings, get?, if_neg hsecret, get?, get?, if_neg hname.symm]
      rfl
    rw [hget]

theorem distinct_promptParameters : (Json.obj promptParameters).Distinct := by
  simp [promptParameters, Json.distinct_obj_iff, Json.distinct_arr_iff, Entries.Distinct, names,
    Json.distinct_str, Json.distinct_int, Json.distinct_null]

theorem distinct_respelledParameters : (Json.obj respelledParameters).Distinct := by
  have hflag : (Json.bool true).Distinct := .plain rfl
  simp [respelledParameters, Json.distinct_obj_iff, Json.distinct_arr_iff, Entries.Distinct, names,
    Json.distinct_str, Json.distinct_null, hflag]

theorem agrees_promptParameters : Agrees (.obj promptParameters) (.obj respelledParameters) := by
  refine (Json.same_iff_agrees distinct_promptParameters distinct_respelledParameters).mp ?_
  simp [promptParameters, respelledParameters, Json.same, Json.sameMembers, Json.sameAll,
    Json.sameScalar, Json.number?, get?]

/-- The order of settings and the secrets do not tell two actions apart, but the providers do. -/
theorem authenticate_by_settings_nested :
    ∃ a b c, authenticateFrom (.str "oidc")
        (.obj (nestedSettings ("ClientSecret", .str "hidden") promptParameters)) .null = .ok a ∧
      authenticateFrom (.str "oidc") (.obj (nestedSettings ("UseExistingClientSecret", .bool true)
        respelledParameters)) (.str "other") = .ok b ∧
      authenticateFrom (.str "cognito") (.obj (nestedSettings ("UseExistingClientSecret", .bool true)
        respelledParameters)) (.str "other") = .ok c ∧
      a.same b = true ∧ a.same c = false := by
  have hd : (Json.obj (nestedSettings ("ClientSecret", .str "hidden") promptParameters)).Distinct :=
    distinct_nestedSettings (by decide) (Json.distinct_str _) distinct_promptParameters
  have hd' : (Json.obj (nestedSettings ("UseExistingClientSecret", .bool true)
      respelledParameters)).Distinct :=
    distinct_nestedSettings (by decide) (.plain rfl) distinct_respelledParameters
  obtain ⟨pairs, pairs', a, b, ha, hb, hsame, -⟩ :=
    authenticate_by_settings .oidc .oidc .null (.str "other") hd hd'
  obtain ⟨_, _, a', c, ha', hc, hother, -⟩ :=
    authenticate_by_settings .oidc .cognito .null (.str "other") hd hd'
  obtain rfl : a = a' := Except.ok.inj (ha.built.symm.trans ha'.built)
  refine ⟨a, b, c, ha.built, hb.built, hc.built, hsame.mpr ⟨rfl, ?_⟩, Bool.eq_false_iff.mpr
    fun h => nomatch (hother.mp h).1⟩
  refine (ha.agrees_iff hb).mpr fun name => ?_
  by_cases hname : name = "AuthenticationRequestExtraParams"
  · subst hname
    exact .some agrees_promptParameters
  · rw [effective?_nestedSettings promptParameters (.inl rfl) hname,
      effective?_nestedSettings respelledParameters (.inr rfl) hname]
    cases effective? [("Scope", .str "openid")] name with
    | none => exact .none
    | some value => exact .some (.refl value)

end Action

end AlbListener

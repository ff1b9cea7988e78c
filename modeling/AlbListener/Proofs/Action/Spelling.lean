import AlbListener.Proofs.Action.Alike

/-!
# How an action can be spelled

The same action can be described in several ways: its members can be reordered, components of a
redirect that are taken over from the request and settings that have their default value can be
written or left out, and what says something about a client secret can be there or not. No managed
action tells two such actions apart (`Interchangeable`).

Results:
* `relates_interchangeable`: documents that are read alike describe interchangeable actions.
* `readAlike_of_plain`, `readAlike_of_absorbed`: documents in which members are reordered or written.
* `ofObserved_alike`: live actions that are read alike.
-/

namespace AlbListener.Action

open Entries (get? put)
open Json (Reordered given)

variable {members members' : List (String × Json)}

/-! ## Interchangeable actions -/

/-- Actions that no managed action tells apart. -/
def Interchangeable (a b : Action) : Prop := ∀ c : Action, c.Managed → a.same c = b.same c

theorem interchangeable_unmanaged (type type' document document' : String) :
    Interchangeable (.unmanaged type document) (.unmanaged type' document') := by
  intro c hc
  cases hc <;> rfl

theorem sorted_settled (value : Json) : (settled value).sorted = value.sorted := by
  induction value using Json.parts_induction with
  | plain value h => rw [settled_of_not_obj (by rintro members rfl; cases h)]
  | arr elements _ => rfl
  | obj members ih =>
    have hvalues : (members.map fun member => (member.1, (settled member.2).sorted)) =
        members.map fun member => (member.1, member.2.sorted) :=
      List.map_congr_left fun member hm => by rw [ih member hm]
    rw [settled, settledMembers_eq_map, Json.sorted_obj, Json.sorted_obj, ← Json.sortMembers_map,
      List.map_map]
    show Json.obj (Json.sortMembers (Json.sortMembers (members.map fun member =>
      (member.1, (settled member.2).sorted)))) = _
    rw [hvalues, Json.sortMembers_of_pairwise (Json.pairwise_sortMembers _)]

theorem reordered_settled {value : Json} (h : value.Distinct) : Reordered (settled value) value :=
  ⟨hereditary_settled Json.hereditary_distinct h, h, sorted_settled value⟩

/-- Configs of authenticate actions with the same settings in effect, but for the secret. -/
inductive SettingsAlike : Json → Json → Prop
  | intro {settings settings' : List (String × Json)} (hd : (Json.obj settings).Distinct)
      (hd' : (Json.obj settings').Distinct)
      (h : ∀ name, name ≠ secretName → name ≠ keepSecretName → Option.Rel Reordered
        ((get? settings name).or (get? defaultSettings name))
        ((get? settings' name).or (get? defaultSettings name))) :
      SettingsAlike (.obj settings) (.obj settings')

/-- Settings that are alike are in effect alike. -/
theorem reordered_openSettings {settings settings' : List (String × Json)}
    (hd : (Json.obj settings).Distinct) (hd' : (Json.obj settings').Distinct)
    (h : ∀ name, name ≠ secretName → name ≠ keepSecretName → Option.Rel Reordered
      ((get? settings name).or (get? defaultSettings name))
      ((get? settings' name).or (get? defaultSettings name))) :
    Reordered (.obj (openSettings settings)) (.obj (openSettings settings')) := by
  have hnone (settings : List (String × Json)) :
      get? (openSettings settings) secretName = none ∧
        get? (openSettings settings) keepSecretName = none :=
    ⟨Entries.get?_eq_none_iff.mpr (secretName_not_mem_openSettings settings),
      Entries.get?_eq_none_iff.mpr (keepSecretName_not_mem_openSettings settings)⟩
  rw [Json.reordered_obj_iff]
  refine ⟨distinct_openSettings _, distinct_openSettings _, fun name => ?_⟩
  by_cases hs : name = secretName
  · rw [hs, (hnone settings).1, (hnone settings').1]
    exact .none
  · by_cases hk : name = keepSecretName
    · rw [hk, (hnone settings).2, (hnone settings').2]
      exact .none
    · rw [get?_openSettings (Json.distinct_obj_iff.mp hd).1 hs hk,
        get?_openSettings (Json.distinct_obj_iff.mp hd').1 hs hk]
      exact h name hs hk

theorem relates_interchangeable : Relates Eq (fun _ => SettingsAlike) Interchangeable where
  forward := fun harn c hc => by
    cases hc <;> first | rfl | exact harn.same_left _
  fixedResponse := fun hs ht hb c hc => by
    subst hs
    cases hc <;> first | rfl | simp only [same, ht.same_left, hb.same_left]
  redirect := fun hs hp hn hh ha hq c hc => by
    subst hn
    cases hc <;> first | rfl | simp only [same, hs.same_left, hp.same_left, hh.same_left,
      ha.same_left, hq.same_left]
  authenticate := fun h => by
    obtain ⟨hd, hd', h⟩ := h
    refine .ok fun c hc => ?_
    have hopen := reordered_openSettings hd hd' h
    have hsettings := ((reordered_settled hopen.left).trans hopen).trans
      (reordered_settled hopen.right).symm
    cases hc with
    | authenticate provider _ _ =>
      rw [authenticateWith_eq, authenticateWith_eq]
      simp only [same]
      exact congrArg _ (hsettings.same_left _)
    | _ => rfl

/-! ## Plain documents -/

/-- The members that hold the configs of actions. -/
def configNames : List String :=
  ["ForwardConfig", "FixedResponseConfig", "RedirectConfig", "AuthenticateOidcConfig",
    "AuthenticateCognitoConfig"]

/-- A value under a name in a config is neither an array nor an object. -/
def PlainIn (members : List (String × Json)) (config name : String) : Prop :=
  ∀ settings, get? members config = some (.obj settings) →
    ∀ value, get? settings name = some value → value.isCompound = false

/-- A document of an action whose parts have the types that they should have. -/
structure PlainDocument (members : List (String × Json)) : Prop where
  configs : ∀ name ∈ configNames, ∀ value, get? members name = some value →
    ∃ settings, value = .obj settings
  groups : ∀ settings, get? members "ForwardConfig" = some (.obj settings) →
    ∀ value, get? settings "TargetGroups" = some value →
      ∃ groups, value = .arr groups ∧ ∀ group ∈ groups, ∃ settings, group = .obj settings
  fixedStatus : PlainIn members "FixedResponseConfig" "StatusCode"
  redirectStatus : PlainIn members "RedirectConfig" "StatusCode"
  redirectPort : PlainIn members "RedirectConfig" "Port"

theorem PlainIn.reordered {config name : String} (hp : PlainIn members config name)
    (h : Reordered (.obj members) (.obj members')) : PlainIn members' config name := by
  intro settings' hs' value' hv'
  obtain ⟨found, hs, hsettings⟩ := h.symm.exists_value hs'
  obtain ⟨settings, rfl⟩ := hsettings.exists_obj
  obtain ⟨value, hv, hvalue⟩ := hsettings.exists_value hv'
  rw [hvalue.isCompound]
  exact hp settings hs value hv

/-- Reordered members are as they should be if they were. -/
theorem PlainDocument.reordered (hp : PlainDocument members)
    (h : Reordered (.obj members) (.obj members')) : PlainDocument members' where
  configs := fun name hname value' hv' => by
    obtain ⟨value, hv, hvalue⟩ := h.symm.exists_value hv'
    obtain ⟨settings, rfl⟩ := hp.configs name hname value hv
    exact hvalue.symm.exists_obj
  groups := fun settings' hs' value' hv' => by
    obtain ⟨found, hs, hsettings⟩ := h.symm.exists_value hs'
    obtain ⟨settings, rfl⟩ := hsettings.exists_obj
    obtain ⟨value, hv, hvalue⟩ := hsettings.exists_value hv'
    obtain ⟨groups, rfl, hgroups⟩ := hp.groups settings hs value hv
    obtain ⟨groups', rfl, hall⟩ := hvalue.symm.exists_arr
    refine ⟨groups', rfl, fun group' hm' => ?_⟩
    obtain ⟨group, hm, hgroup⟩ := Reordered.exists_element (hall.flip.imp fun _ _ h => h.symm) hm'
    obtain ⟨settings, rfl⟩ := hgroups group hm
    exact hgroup.symm.exists_obj
  fixedStatus := hp.fixedStatus.reordered h
  redirectStatus := hp.redirectStatus.reordered h
  redirectPort := hp.redirectPort.reordered h

/-- Documents that hold the same configs are as they should be alike. -/
theorem PlainDocument.of_configs (hp : PlainDocument members)
    (h : ∀ name ∈ configNames, get? members' name = get? members name) :
    PlainDocument members' where
  configs := fun name hname value hv => hp.configs name hname value (h name hname ▸ hv)
  groups := fun settings hs => hp.groups settings (h "ForwardConfig" (by decide) ▸ hs)
  fixedStatus := fun settings hs =>
    hp.fixedStatus settings (h "FixedResponseConfig" (by decide) ▸ hs)
  redirectStatus := fun settings hs =>
    hp.redirectStatus settings (h "RedirectConfig" (by decide) ▸ hs)
  redirectPort := fun settings hs => hp.redirectPort settings (h "RedirectConfig" (by decide) ▸ hs)

theorem PlainIn.put_config {holder name config : String} {settings settings' : List (String × Json)}
    (hp : PlainIn members holder name) (hs : get? members config = some (.obj settings))
    (h : config = holder → ∀ value, get? settings' name = some value →
      get? settings name = some value ∨ value.isCompound = false) :
    PlainIn (put members config (.obj settings')) holder name := by
  intro found hfound value hv
  by_cases hc : config = holder
  · subst hc
    obtain rfl : settings' = found := by
      rw [Entries.get?_put_self, Option.some.injEq, Json.obj.injEq] at hfound
      exact hfound
    exact (h rfl value hv).elim (hp settings hs value) id
  · rw [Entries.get?_put_of_ne _ _ hc] at hfound
    exact hp found hfound value hv

/-- A document is as it should be with other settings in a config, if what is new among them is. -/
theorem PlainDocument.put_config {config : String} {settings settings' : List (String × Json)}
    (hp : PlainDocument members) (hs : get? members config = some (.obj settings))
    (hforward : config ≠ "ForwardConfig")
    (h : config ∈ ["FixedResponseConfig", "RedirectConfig"] → ∀ name value,
      get? settings' name = some value → get? settings name = some value ∨ value.isCompound = false) :
    PlainDocument (put members config (.obj settings')) where
  configs := fun name hname value hv => by
    by_cases hc : config = name
    · subst hc
      rw [Entries.get?_put_self, Option.some.injEq] at hv
      exact ⟨settings', hv.symm⟩
    · rw [Entries.get?_put_of_ne _ _ hc] at hv
      exact hp.configs name hname value hv
  groups := by
    rw [Entries.get?_put_of_ne _ _ hforward]
    exact hp.groups
  fixedStatus := hp.fixedStatus.put_config hs fun hc => h (by simp [hc]) _
  redirectStatus := hp.redirectStatus.put_config hs fun hc => h (by simp [hc]) _
  redirectPort := hp.redirectPort.put_config hs fun hc => h (by simp [hc]) _

theorem configOf_eq (hc : ∀ value, get? members name = some value → ∃ settings, value = .obj settings) :
    ∃ settings, configOf members name = .obj settings ∧
      ∀ found, get? settings found ≠ none → get? members name = some (.obj settings) := by
  unfold configOf given
  cases hv : get? members name with
  | none => exact ⟨[], rfl, fun _ h => absurd rfl h⟩
  | some value =>
    obtain ⟨settings, rfl⟩ := hc value hv
    exact ⟨settings, Json.orElse_obj_nil settings, fun _ _ => rfl⟩

/-- A plain value in a config that is looked up. -/
theorem isCompound_of_plainIn {config name : String} (hp : PlainIn members config name)
    (hc : ∀ value, get? members config = some value → ∃ settings, value = .obj settings)
    {settings : List (String × Json)} (hs : configOf members config = .obj settings) {value : Json}
    (hv : get? settings name = some value) : value.isCompound = false := by
  obtain ⟨found, hfound, hmember⟩ := configOf_eq hc
  obtain rfl : settings = found := Json.obj.inj (hs.symm.trans hfound)
  exact hp settings (hmember name (by rw [hv]; exact Option.some_ne_none _)) value hv

/-- Plain values that are reordered are equal. -/
theorem alike_eq_of_plain {step step' : Except Fault Json} (h : Alike Eq Reordered step step')
    (hp : ∀ value, step = .ok value → value.isCompound = false) : Alike Eq Eq step step' := by
  cases h with
  | ok h => exact .ok (h.eq_of_plain (hp _ rfl))
  | error h => exact .error h

theorem reordered_configOf {name : String}
    (h : Option.Rel Reordered (get? members name) (get? members' name)) :
    Reordered (configOf members name) (configOf members' name) :=
  (Reordered.rel_getD h (.refl Json.distinct_null)).orElse (.refl Json.distinct_obj_nil)

theorem fixedResponseAlike_of_plain (hp : PlainDocument members)
    (h : Option.Rel Reordered (get? members "FixedResponseConfig")
      (get? members' "FixedResponseConfig")) :
    FixedResponseAlike Eq (configOf members "FixedResponseConfig")
      (configOf members' "FixedResponseConfig") := by
  have hconfig := reordered_configOf h
  have hobject := hp.configs "FixedResponseConfig" (by decide)
  refine ⟨hconfig.mentions _, alike_eq_of_plain (hconfig.member _) fun value hv => ?_,
    hconfig.getD (.refl Json.distinct_null) _, hconfig.getD (.refl Json.distinct_null) _⟩
  obtain ⟨settings, hs, -⟩ := configOf_eq hobject
  rw [hs, Json.member_obj_eq_ok_iff] at hv
  exact isCompound_of_plainIn hp.fixedStatus hobject hs hv

theorem redirectAlike_of_plain (hp : PlainDocument members)
    (h : Option.Rel Reordered (get? members "RedirectConfig") (get? members' "RedirectConfig")) :
    RedirectAlike Eq (configOf members "RedirectConfig") (configOf members' "RedirectConfig") := by
  have hconfig := reordered_configOf h
  have hobject := hp.configs "RedirectConfig" (by decide)
  have htext (s : String) : Reordered (.str s) (.str s) := .refl (Json.distinct_str s)
  refine ⟨hconfig.mentions _, hconfig.member _, hconfig.getD (htext _) _,
    alike_eq_of_plain (hconfig.getD (htext _) _) fun value hv => ?_, hconfig.getD (htext _) _,
    hconfig.getD (htext _) _, hconfig.getD (htext _) _⟩
  obtain ⟨settings, hs, -⟩ := configOf_eq hobject
  rw [hs, Json.getD_obj, Except.ok.injEq] at hv
  subst hv
  cases hport : get? settings "Port" with
  | none => rfl
  | some port => exact isCompound_of_plainIn hp.redirectPort hobject hs hport

theorem settingsAlike_of_reordered {settings settings' : List (String × Json)}
    (h : Reordered (.obj settings) (.obj settings')) :
    SettingsAlike (.obj settings) (.obj settings') := by
  refine .intro h.left h.right fun name _ _ => ?_
  have hname := (Json.reordered_obj_iff.mp h).2.2 name
  generalize get? settings name = x, get? settings' name = y at hname
  cases hname with
  | some h => exact .some h
  | none =>
    cases hd : get? defaultSettings name with
    | none => exact .none
    | some value =>
      have hplain : ∀ setting ∈ defaultSettings, setting.2.Distinct := by
        intro setting hm
        simp only [defaultSettings, List.mem_cons, List.not_mem_nil, or_false] at hm
        rcases hm with rfl | rfl | rfl | rfl <;> exact .plain rfl
      exact .some (.refl (hplain _ (Entries.mem_of_get? hd)))

theorem settingsAlike_of_plain (hp : PlainDocument members) {name : String}
    (hname : name ∈ configNames)
    (h : Option.Rel Reordered (get? members name) (get? members' name)) :
    Option.Rel SettingsAlike (get? members name) (get? members' name) := by
  have hobject := hp.configs name hname
  generalize get? members name = x, get? members' name = y at h hobject
  cases h with
  | none => exact .none
  | some h =>
    obtain ⟨settings, rfl⟩ := hobject _ rfl
    rcases h.cases with ⟨-, hp⟩ | ⟨_, _, hx, -⟩ | ⟨xs, ys, hx, rfl, -⟩
    · cases hp
    · cases hx
    · exact .some (settingsAlike_of_reordered h)

/-- The members of an action document that are not its config. -/
def commonNames : List String := ["Type", "TargetGroupArn", "ForwardConfig", "FixedResponseConfig"]

/-- Plain documents are read alike if their members are reordered, and redirects and authenticate
    actions are read alike. -/
theorem readAlike_of_members (hp : PlainDocument members)
    (h : ∀ name ∈ commonNames, Option.Rel Reordered (get? members name) (get? members' name))
    (hr : RedirectAlike Eq (configOf members "RedirectConfig") (configOf members' "RedirectConfig"))
    (ha : ∀ provider : Provider, Option.Rel SettingsAlike (get? members provider.configName)
      (get? members' provider.configName)) :
    ReadAlike Eq (fun _ => SettingsAlike) members members' where
  type := Reordered.rel_getD (h _ (by decide)) (.refl Json.distinct_null)
  targetGroupArn := Reordered.rel_getD (h _ (by decide)) (.refl Json.distinct_null)
  forward := Reordered.rel_getD (h _ (by decide)) (.refl Json.distinct_null)
  fixedResponse := fixedResponseAlike_of_plain hp (h _ (by decide))
  redirect := hr
  authenticate := ha

/-- Plain documents whose members but for the place are reordered are read alike. -/
theorem readAlike_of_plain (hp : PlainDocument members)
    (h : ∀ name ≠ "Order", Option.Rel Reordered (get? members name) (get? members' name)) :
    ReadAlike Eq (fun _ => SettingsAlike) members members' :=
  readAlike_of_members hp
    (fun name hm => h name (by rintro rfl; revert hm; decide))
    (redirectAlike_of_plain hp (h _ (by decide)))
    (fun provider => settingsAlike_of_plain hp (by cases provider <;> decide)
      (h _ (by cases provider <;> decide)))

/-! ## Members that can be written or left out -/

/-- The components of a redirect with what stands for each if it is taken over from the request. -/
def redirectDefaults : List (String × Json) :=
  [("Protocol", keepProtocol), ("Port", keepPort), ("Host", keepHost), ("Path", keepPath),
    ("Query", keepQuery)]

/-- A member of a config, with its value, that can be written or left out. -/
inductive Absorbed : String → String × Json → Prop
  | component {member : String × Json} (h : member ∈ redirectDefaults) :
      Absorbed "RedirectConfig" member
  | setting (provider : Provider) {member : String × Json} (h : member ∈ defaultSettings) :
      Absorbed provider.configName member
  | secret (provider : Provider) {value : Json} (h : value.Distinct) :
      Absorbed provider.configName (secretName, value)
  | keepSecret (provider : Provider) {value : Json} (h : value.Distinct) :
      Absorbed provider.configName (keepSecretName, value)

/-- The members with one more setting in a config. -/
def withSetting (members : List (String × Json)) (config : String) (settings : List (String × Json))
    (member : String × Json) : List (String × Json) :=
  put members config (.obj (settings ++ [member]))

theorem get?_concat (settings : List (String × Json)) (member : String × Json) (name : String) :
    get? (settings ++ [member]) name =
      (get? settings name).or (if member.1 = name then some member.2 else none) := by
  rw [Entries.get?_append]
  rfl

theorem distinct_concat {settings : List (String × Json)} {member : String × Json}
    (hd : (Json.obj settings).Distinct) (hm : member.2.Distinct)
    (hn : get? settings member.1 = none) : (Json.obj (settings ++ [member])).Distinct := by
  obtain ⟨hnames, hvalues⟩ := Json.distinct_obj_iff.mp hd
  refine .obj ?_ fun entry he => ?_
  · rw [Entries.Distinct, Entries.names_append]
    exact List.nodup_append'.mpr ⟨hnames, List.nodup_singleton _,
      List.disjoint_singleton.mpr (Entries.get?_eq_none_iff.mp hn)⟩
  · rcases List.mem_append.mp he with he | he
    · exact hvalues entry he
    · rw [List.mem_singleton.mp he]
      exact hm

theorem rel_refl (hd : (Json.obj members).Distinct) (name : String) :
    Option.Rel Reordered (get? members name) (get? members name) := by
  cases hv : get? members name with
  | none => exact .none
  | some value => exact .some (.refl (Json.get?_distinct hd hv))

theorem distinct_of_absorbed {config : String} {member : String × Json} (h : Absorbed config member) :
    member.2.Distinct := by
  cases h with
  | component h =>
    simp only [redirectDefaults, List.mem_cons, List.not_mem_nil, or_false] at h
    rcases h with rfl | rfl | rfl | rfl | rfl <;> exact .plain rfl
  | setting _ h =>
    simp only [defaultSettings, List.mem_cons, List.not_mem_nil, or_false] at h
    rcases h with rfl | rfl | rfl | rfl <;> exact .plain rfl
  | secret _ h => exact h
  | keepSecret _ h => exact h

theorem plain_of_absorbed {config : String} {member : String × Json} (h : Absorbed config member) :
    config ≠ "ForwardConfig" ∧
      (config ∈ ["FixedResponseConfig", "RedirectConfig"] → member.2.isCompound = false) := by
  have hprovider (provider : Provider) : provider.configName ≠ "ForwardConfig" ∧
      provider.configName ∉ ["FixedResponseConfig", "RedirectConfig"] := by
    cases provider <;> decide
  cases h with
  | component h =>
    refine ⟨by decide, fun _ => ?_⟩
    simp only [redirectDefaults, List.mem_cons, List.not_mem_nil, or_false] at h
    rcases h with rfl | rfl | rfl | rfl | rfl <;> rfl
  | setting provider => exact (hprovider provider).imp_right fun hn hc => absurd hc hn
  | secret provider => exact (hprovider provider).imp_right fun hn hc => absurd hc hn
  | keepSecret provider => exact (hprovider provider).imp_right fun hn hc => absurd hc hn

/-- A member that can be left out keeps a document as it should be, whether it is written or left
    out. -/
theorem plainDocument_withSetting_iff {config : String} {settings : List (String × Json)}
    {member : String × Json} (ha : Absorbed config member)
    (hs : get? members config = some (.obj settings)) :
    PlainDocument (withSetting members config settings member) ↔ PlainDocument members := by
  obtain ⟨hforward, hplain⟩ := plain_of_absorbed ha
  constructor
  · intro hp
    have hback : PlainDocument (put (withSetting members config settings member) config
        (.obj settings)) := hp.put_config (Entries.get?_put_self _ _ _) hforward
      fun _ name value hv => .inl (by rw [get?_concat, hv]; rfl)
    rwa [withSetting, Entries.put_put_of_get? hs] at hback
  · intro hp
    refine hp.put_config hs hforward fun hc name value hv => ?_
    rw [get?_concat] at hv
    cases hsettings : get? settings name with
    | some found =>
      rw [hsettings] at hv
      exact .inl hv
    | none =>
      rw [hsettings, Option.none_or] at hv
      split_ifs at hv
      cases hv
      exact .inr (hplain hc)

theorem distinct_withSetting_iff {config : String} {settings : List (String × Json)}
    {member : String × Json} (ha : Absorbed config member)
    (hs : get? members config = some (.obj settings)) (hn : get? settings member.1 = none) :
    (Json.obj (withSetting members config settings member)).Distinct ↔
      (Json.obj members).Distinct := by
  constructor
  · intro hd
    have hconcat := Json.get?_distinct hd (Entries.get?_put_self _ _ _)
    obtain ⟨hnames, hvalues⟩ := Json.distinct_obj_iff.mp hconcat
    rw [Entries.Distinct, Entries.names_append] at hnames
    have hsettings : (Json.obj settings).Distinct :=
      .obj (List.Nodup.of_append_left hnames) fun setting hm =>
        hvalues setting (List.mem_append_left _ hm)
    have hback := Json.put_distinct hd config hsettings
    rwa [withSetting, Entries.put_put_of_get? hs] at hback
  · intro hd
    exact Json.put_distinct hd config
      (distinct_concat (Json.get?_distinct hd hs) (distinct_of_absorbed ha) hn)

/-- A component that is written as it would be read changes no component. -/
theorem getD_component {settings : List (String × Json)} {member other : String × Json}
    (hm : member ∈ redirectDefaults) (hn : get? settings member.1 = none)
    (ho : other ∈ redirectDefaults) :
    (get? (settings ++ [member]) other.1).getD other.2 = (get? settings other.1).getD other.2 := by
  rw [get?_concat]
  by_cases hname : member.1 = other.1
  · have hsame : ∀ a ∈ redirectDefaults, ∀ b ∈ redirectDefaults, a.1 = b.1 → a.2 = b.2 := by
      simp [redirectDefaults]
    rw [← hname, hn, if_pos rfl, ← hsame member hm other ho hname]
    rfl
  · rw [if_neg hname, Option.or_none]

theorem redirectAlike_of_component {settings : List (String × Json)} {member : String × Json}
    (hd : (Json.obj settings).Distinct) (hm : member ∈ redirectDefaults)
    (hn : get? settings member.1 = none) :
    RedirectAlike Eq (.obj settings) (.obj (settings ++ [member])) := by
  have hname : member.1 ≠ "StatusCode" := by
    revert hm
    simp only [redirectDefaults, List.mem_cons, List.not_mem_nil, or_false]
    rintro (rfl | rfl | rfl | rfl | rfl) <;> decide
  have hstatus : get? (settings ++ [member]) "StatusCode" = get? settings "StatusCode" := by
    rw [get?_concat, if_neg hname, Option.or_none]
  have hequal (name : String) (value : Json) (ho : (name, value) ∈ redirectDefaults) :
      (Json.obj (settings ++ [member])).getD name value = (Json.obj settings).getD name value := by
    rw [Json.getD_obj, Json.getD_obj, getD_component hm hn ho]
  have hcomponent (name : String) (value : Json) (ho : (name, value) ∈ redirectDefaults) :
      Alike Eq Reordered ((Json.obj settings).getD name value)
        ((Json.obj (settings ++ [member])).getD name value) := by
    rw [hequal name value ho]
    exact (Reordered.refl hd).getD (.refl (distinct_of_absorbed (.component ho))) name
  refine ⟨?_, ?_, hcomponent _ _ (by simp [redirectDefaults]), ?_,
    hcomponent _ _ (by simp [redirectDefaults]), hcomponent _ _ (by simp [redirectDefaults]),
    hcomponent _ _ (by simp [redirectDefaults])⟩
  · rw [Json.mentions_obj, Json.mentions_obj, Entries.has, Entries.has, hstatus]
  · rw [Json.member, Json.member, hstatus]
    exact (Reordered.refl hd).member "StatusCode"
  · rw [hequal _ _ (by simp [redirectDefaults])]
    exact .refl (fun _ => rfl) (fun _ => rfl) _

/-- A setting that is written as it would be in effect changes no setting. -/
theorem settingsAlike_concat {settings : List (String × Json)} {member : String × Json}
    (hd : (Json.obj settings).Distinct) (hm : member.2.Distinct)
    (hn : get? settings member.1 = none)
    (ha : member ∈ defaultSettings ∨ member.1 = secretName ∨ member.1 = keepSecretName) :
    SettingsAlike (.obj settings) (.obj (settings ++ [member])) := by
  refine .intro hd (distinct_concat hd hm hn) fun name hs hk => ?_
  have hsame : (get? (settings ++ [member]) name).or (get? defaultSettings name) =
      (get? settings name).or (get? defaultSettings name) := by
    rw [get?_concat]
    by_cases hname : member.1 = name
    · rcases ha with ha | ha | ha
      · rw [if_pos hname, ← hname, hn, Option.none_or,
          Entries.get?_of_mem distinct_defaultSettings ha]
        rfl
      · exact absurd (hname.symm.trans ha) hs
      · exact absurd (hname.symm.trans ha) hk
    · rw [if_neg hname, Option.or_none]
  rw [hsame]
  have hdefaults : (Json.obj defaultSettings).Distinct :=
    .obj distinct_defaultSettings fun setting hm => distinct_of_absorbed (.setting .oidc hm)
  cases hv : get? settings name with
  | some value => exact .some (.refl (Json.get?_distinct hd hv))
  | none => exact rel_refl hdefaults name

/-- A document is read alike if a member that can be left out is written in a config. -/
theorem readAlike_of_absorbed (hd : (Json.obj members).Distinct) (hp : PlainDocument members)
    {config : String} {settings : List (String × Json)} {member : String × Json}
    (ha : Absorbed config member) (hs : get? members config = some (.obj settings))
    (hn : get? settings member.1 = none) :
    ReadAlike Eq (fun _ => SettingsAlike) members (withSetting members config settings member) := by
  have hsettings := Json.get?_distinct hd hs
  have hm := distinct_of_absorbed ha
  have hkept {name : String} (hname : config ≠ name) :
      get? (withSetting members config settings member) name = get? members name :=
    Entries.get?_put_of_ne _ _ hname
  have hself : get? (withSetting members config settings member) config =
      some (.obj (settings ++ [member])) := Entries.get?_put_self _ _ _
  have hrel {name : String} (hname : config ≠ name) : Option.Rel Reordered (get? members name)
      (get? (withSetting members config settings member) name) := by
    rw [hkept hname]
    exact rel_refl hd name
  have hauthenticate (provider : Provider) (hc : config = provider.configName)
      (ha : member ∈ defaultSettings ∨ member.1 = secretName ∨ member.1 = keepSecretName) :
      ReadAlike Eq (fun _ => SettingsAlike) members
        (withSetting members config settings member) := by
    have hother : ∀ name ∈ commonNames ++ ["RedirectConfig"], config ≠ name := by
      rw [hc]
      cases provider <;> decide
    refine readAlike_of_members hp
      (fun name hm => hrel (hother name (List.mem_append_left _ hm)))
      (redirectAlike_of_plain hp (hrel (hother _ (by decide)))) fun provider' => ?_
    by_cases hname : config = provider'.configName
    · rw [← hname, hs, hself]
      exact .some (settingsAlike_concat hsettings hm hn ha)
    · exact settingsAlike_of_plain hp (by cases provider' <;> decide) (hrel hname)
  cases ha with
  | component ha =>
    refine readAlike_of_members hp
      (fun name hm => hrel (by rintro rfl; revert hm; decide)) ?_
      fun provider => settingsAlike_of_plain hp (by cases provider <;> decide)
        (hrel (by cases provider <;> decide))
    simp only [configOf, given, hs, hself, Option.getD_some, Json.orElse_obj_nil]
    exact redirectAlike_of_component hsettings ha hn
  | setting provider ha => exact hauthenticate provider rfl (.inl ha)
  | secret provider _ => exact hauthenticate provider rfl (.inr (.inl rfl))
  | keepSecret provider _ => exact hauthenticate provider rfl (.inr (.inr rfl))

/-! ## Live actions -/

/-- Live actions that are read alike are interchangeable. -/
theorem ofObserved_alike (h : ReadAlike Eq (fun _ => SettingsAlike) members members') :
    Alike (fun _ _ => True) Interchangeable (ofObserved (.obj members))
      (ofObserved (.obj members')) := by
  have halike := ofDocument_alike h relates_interchangeable
  unfold ofObserved
  generalize ofDocument (.obj members) = step, ofDocument (.obj members') = step' at halike
  cases halike with
  | ok h => exact .ok h
  | @error fault fault' hsort =>
    cases fault with
    | invalid reason =>
      obtain ⟨reason', rfl⟩ := Fault.isInvalid_iff.mp hsort.symm
      exact .ok (interchangeable_unmanaged _ _ _ _)
    | _ => cases fault' <;> first | exact .error trivial | cases hsort

end AlbListener.Action

import AlbListener.Proofs.Action.Spelling
import AlbListener.Proofs.Listener.Port

/-!
# Actions on a live listener

A provider reports the actions of a listener as documents whose parts have the sorts that it gives
them (`ReportedAction`), but which need not give what an action of their type needs. Every such
document is read: as an action of the type that it names if it gives what the type needs
(`Expresses`), and as one that cannot be expressed if it does not, or names no type that is known.

Results:
* `settles_readerOf`: a document is refused as a type exactly if it lacks what the type needs.
* `exists_readAs`: every reported action is read, as what it is.
-/

namespace AlbListener.Action

open Entries (get? has)
open Json (given)

/-- The document of an action on a live listener, with its place there and its target groups. Its
    configs are objects, and its target groups, if it lists any, an array of objects. -/
structure ReportedAction where
  members : List (String × Json)
  place : ℤ
  groups : List (List (String × Json))
  placed : ((get? members "Order").getD (.int 0)).IsInteger place
  configs : ∀ name ∈ configNames, ∀ value, get? members name = some value →
    ∃ settings, value = .obj settings
  grouped : (configOf members "ForwardConfig").getD "TargetGroups" (.arr []) =
    .ok (.arr (groups.map .obj))

namespace ReportedAction

variable {d : ReportedAction} {type : ActionType}

/-- The document of a reported action. -/
def document (d : ReportedAction) : Json := .obj d.members

/-- A document gives what an action of a type needs. -/
inductive Gives (d : ReportedAction) : ActionType → Prop
  | forward {holder : List (String × Json)} (hone : d.groups.length ≤ 1)
      (hm : holder ∈ d.members :: d.groups)
      (harn : (given holder "TargetGroupArn").isTruthy = true) : Gives d .forward
  | fixedResponse {settings : List (String × Json)}
      (h : get? d.members "FixedResponseConfig" = some (.obj settings))
      (hs : has settings "StatusCode" = true) : Gives d .fixedResponse
  | redirect {settings : List (String × Json)}
      (h : get? d.members "RedirectConfig" = some (.obj settings))
      (hs : has settings "StatusCode" = true) : Gives d .redirect
  | authenticate {provider : Provider} {settings : List (String × Json)}
      (h : get? d.members provider.configName = some (.obj settings)) :
      Gives d (.authenticate provider)

/-- A document names a type and gives what an action of that type needs. -/
structure Expresses (d : ReportedAction) (type : ActionType) : Prop where
  named : get? d.members "Type" = some (.str type.name)
  complete : d.Gives type

/-- What a document is read as on a live listener. -/
structure ReadAs (d : ReportedAction) (a : Action) : Prop where
  read : ofObserved d.document = .ok a
  unmanaged_iff : a.isUnmanaged = true ↔ ∀ type, ¬d.Expresses type
  type_eq : ∀ type, d.Expresses type → a.type = type.name

end ReportedAction

/-! ## Steps that refuse what they cannot read -/

/-- A step gives an action of a type if a condition holds, and refuses the document if not. -/
inductive Settles (type : ActionType) (P : Prop) : Except Fault Action → Prop
  | read {a : Action} (h : P) (hm : a.isUnmanaged = false) (ht : a.type = type.name) :
      Settles type P (.ok a)
  | refused {reason : Invalid} (h : ¬P) : Settles type P (.error (.invalid reason))

/-! ## Reading a document as its type -/

namespace ReportedAction

variable (d : ReportedAction)

/-- A config is an object, an empty one if it is not given. -/
theorem exists_configOf {name member : String} (hname : name ∈ configNames) :
    ∃ settings, configOf d.members name = .obj settings ∧ (has settings member = true ↔
      ∃ settings, get? d.members name = some (.obj settings) ∧ has settings member = true) := by
  obtain ⟨settings, hconfig, hgiven⟩ := configOf_eq (d.configs name hname)
  refine ⟨settings, hconfig, fun h => ⟨settings, hgiven member ?_, h⟩, ?_⟩
  · exact Option.isSome_iff_ne_none.mp h
  · rintro ⟨_, hs, h⟩
    rw [configOf, given, hs, Option.getD_some, Json.orElse_obj_nil] at hconfig
    cases hconfig
    exact h

/-- The target groups of a forward. -/
theorem exists_groups : ∃ settings, configOf d.members "ForwardConfig" = .obj settings ∧
    (given settings "TargetGroups").orElse (.arr []) = .arr (d.groups.map .obj) := by
  obtain ⟨settings, hconfig, -⟩ := configOf_eq (d.configs "ForwardConfig" (by decide))
  refine ⟨settings, hconfig, ?_⟩
  have hgroups := d.grouped
  rw [hconfig, Json.getD_obj, Except.ok.injEq] at hgroups
  rw [given]
  cases hget : get? settings "TargetGroups" with
  | none =>
    rw [hget] at hgroups
    exact hgroups
  | some value =>
    rw [hget] at hgroups
    cases hgroups
    exact Json.orElse_arr_nil _

theorem settles_forwardOf : Settles .forward (d.Gives .forward) (forwardOf d.document) := by
  obtain ⟨settings, hconfig, hgroups⟩ := d.exists_groups
  unfold configOf given at hconfig
  rw [given] at hgroups
  -- whatever arn is found is forwarded to if it counts as given
  have hfound {arn : Json} (h : arn.isTruthy = true ↔ d.Gives .forward) :
      Settles .forward (d.Gives .forward) (if arn.isTruthy = true then .ok (forward arn)
        else .error (.invalid .noTargetGroup)) := by
    split_ifs with harn
    · exact .read (h.mp harn) rfl rfl
    · exact .refused (mt h.mpr harn)
  unfold forwardOf document
  rw [Json.getD_obj, bind_of_eq_ok rfl, hconfig]
  dsimp only
  rw [Json.getD_obj, bind_of_eq_ok rfl, hgroups]
  rw [Json.size, bind_of_eq_ok rfl, List.length_map, Json.getD_obj, bind_of_eq_ok rfl]
  split_ifs with hmany htop
  · refine .refused ?_
    rintro ⟨⟩
    omega
  · -- nothing is named at the top, and there is one group
    rw [Bool.and_eq_true, Bool.not_eq_true'] at htop
    obtain ⟨group, hg⟩ : ∃ group, d.groups = [group] := by
      refine List.length_eq_one_iff.mp (Nat.le_antisymm (not_lt.mp hmany) ?_)
      refine List.length_pos_iff.mpr fun hnil => ?_
      rw [hnil] at htop
      cases htop.2
    rw [hg, List.map_cons, Json.first, bind_of_eq_ok rfl, Json.getD_obj, bind_of_eq_ok rfl]
    refine hfound ⟨.forward (not_lt.mp hmany) (by simp [hg]), ?_⟩
    rintro ⟨-, hm, harn⟩
    rw [hg, List.mem_pair] at hm
    rcases hm with rfl | rfl
    · cases htop.1.symm.trans harn
    · exact harn
  · rw [pure_bind]
    refine hfound ⟨.forward (not_lt.mp hmany) List.mem_cons_self, ?_⟩
    rintro ⟨-, hm, harn⟩
    by_contra hnone
    have hnil : d.groups = [] := by
      cases hg : d.groups with
      | nil => rfl
      | cons => exact absurd (by rw [Bool.eq_false_iff.mpr hnone, hg]; rfl) htop
    rw [hnil, List.mem_singleton] at hm
    exact hnone (hm ▸ harn)

/-- A config is asked for its status code, and what follows only reads members of the config. -/
theorem settles_config {type : ActionType} {name : String} (hname : name ∈ configNames)
    (reason : Invalid) (next : Json → Json → Except Fault Action)
    (hgives : d.Gives type ↔ ∃ settings, get? d.members name = some (.obj settings) ∧
      has settings "StatusCode" = true)
    (hnext : ∀ settings status, ∃ a, next (.obj settings) status = .ok a ∧
      a.isUnmanaged = false ∧ a.type = type.name) :
    Settles type (d.Gives type)
      ((configOf d.members name).mentions "StatusCode" >>= fun known =>
        if (!known) = true then .error (.invalid reason)
        else (configOf d.members name).member "StatusCode" >>= next (configOf d.members name)) := by
  obtain ⟨settings, hconfig, hhas⟩ := d.exists_configOf hname
  rw [hconfig, Json.mentions_obj, bind_of_eq_ok rfl]
  by_cases h : has settings "StatusCode" = true
  · obtain ⟨status, hs⟩ := exists_member_of_has h
    obtain ⟨a, ha, hm, ht⟩ := hnext settings status
    rw [if_neg (by simp [h]), bind_of_eq_ok hs, ha]
    exact .read (hgives.mpr (hhas.mp h)) hm ht
  · rw [if_pos (by simpa using h)]
    exact .refused fun hg => h (hhas.mpr (hgives.mp hg))

theorem settles_fixedResponseOf :
    Settles .fixedResponse (d.Gives .fixedResponse) (fixedResponseOf d.document) := by
  unfold fixedResponseOf document
  rw [Json.getD_obj, bind_of_eq_ok rfl]
  refine d.settles_config (by decide) _
    (fun config status => do
      return .fixedResponse (.str status.display) (← config.getD "ContentType" .null)
        (← config.getD "MessageBody" .null))
    ⟨?_, fun ⟨_, h, hs⟩ => .fixedResponse h hs⟩ fun _ _ => ⟨_, rfl, rfl, rfl⟩
  rintro (_ | ⟨h, hs⟩)
  exact ⟨_, h, hs⟩

theorem settles_redirectOf : Settles .redirect (d.Gives .redirect) (redirectOf d.document) := by
  unfold redirectOf document
  rw [Json.getD_obj, bind_of_eq_ok rfl]
  refine d.settles_config (by decide) _
    (fun config status => do
      return .redirect status (← config.getD "Protocol" keepProtocol)
        (.str (← config.getD "Port" keepPort).display) (← config.getD "Host" keepHost)
        (← config.getD "Path" keepPath) (← config.getD "Query" keepQuery))
    ⟨?_, fun ⟨_, h, hs⟩ => .redirect h hs⟩ fun _ _ => ⟨_, rfl, rfl, rfl⟩
  rintro (_ | _ | ⟨h, hs⟩)
  exact ⟨_, h, hs⟩

theorem settles_authenticateOf (provider : Provider) :
    Settles (.authenticate provider) (d.Gives (.authenticate provider))
      (authenticateOf provider d.document) := by
  unfold authenticateOf document
  rw [Json.mentions_obj, bind_of_eq_ok rfl, has]
  cases hget : get? d.members provider.configName with
  | none =>
    refine .refused ?_
    rintro ⟨⟩
    cases hget.symm.trans ‹_›
  | some value =>
    obtain ⟨settings, rfl⟩ := d.configs provider.configName (by cases provider <;> decide) value hget
    rw [if_neg (by simp), bind_of_eq_ok (Json.member_obj_eq_ok_iff.mpr hget), Json.toMembers_obj]
    exact .read (.authenticate hget) rfl rfl

/-- Read as a type, a document is refused exactly if it lacks what the type needs. -/
theorem settles_readerOf (type : ActionType) :
    Settles type (d.Gives type) (readerOf type d.document) := by
  cases type with
  | forward => exact d.settles_forwardOf
  | fixedResponse => exact d.settles_fixedResponseOf
  | redirect => exact d.settles_redirectOf
  | authenticate provider => exact d.settles_authenticateOf provider

/-! ## Reading a document on a live listener -/

variable {d} in
/-- A document expresses no type but the one that it names. -/
theorem Expresses.eq_of_named {type other : ActionType} (h : d.Expresses other)
    (hnamed : get? d.members "Type" = some (.str type.name)) : other = type := by
  have hother := typeOf?_eq_some_iff.mpr (Option.some.inj (hnamed.symm.trans h.named))
  exact Option.some.inj (hother.symm.trans (typeOf?_eq_some_iff.mpr rfl))

variable {d} in
/-- A document that is refused is kept as an action that cannot be expressed. -/
theorem exists_readAs_of_refused {reason : Invalid}
    (hrefused : ofDocument d.document = .error (.invalid reason))
    (h : ∀ type, ¬d.Expresses type) : ∃ a, d.ReadAs a := by
  have hread : ofObserved d.document = unmanagedOf d.document := by rw [ofObserved, hrefused]
  exact ⟨_, hread, iff_of_true rfl h, fun type ht => absurd ht (h type)⟩

/-- Every reported action is read, as the type that it names or as one that cannot be expressed. -/
theorem exists_readAs : ∃ a, d.ReadAs a := by
  by_cases h : ∃ type : ActionType, get? d.members "Type" = some (.str type.name)
  · obtain ⟨type, hnamed⟩ := h
    have hsettles := d.settles_readerOf type
    generalize hstep : readerOf type d.document = step at hsettles
    rw [document, ← ofDocument_of_type hnamed] at hstep
    cases hsettles with
    | @read a hgives hm ht =>
      refine ⟨a, ofObserved_eq_ofDocument hstep, iff_of_false (by simp [hm]) fun hnone => ?_, ?_⟩
      · exact hnone type ⟨hnamed, hgives⟩
      · rintro other ho
        rw [ht, ho.eq_of_named hnamed]
    | refused hgives =>
      refine exists_readAs_of_refused hstep fun other ho => hgives ?_
      exact ho.eq_of_named hnamed ▸ ho.complete
  · have hnone : typeOf? (given d.members "Type") = none :=
      Option.eq_none_iff_forall_ne_some.mpr fun type htype =>
        h ⟨type, Json.get?_of_given (typeOf?_eq_some_iff.mp htype) nofun⟩
    have hrefused : ofDocument d.document =
        .error (.invalid (.actionType (given d.members "Type"))) := by
      rw [given] at hnone
      rw [document, ofDocument, Json.getD_obj, bind_of_eq_ok rfl, hnone, given]
    exact exists_readAs_of_refused hrefused fun type ht => h ⟨type, ht.named⟩

end ReportedAction

end AlbListener.Action

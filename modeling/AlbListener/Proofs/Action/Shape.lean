import Mathlib.Tactic.SplitIfs
import AlbListener.Action.Document
import AlbListener.Proofs.Json

/-!
# Documents of the wrong shape

A step that reads a document may refuse a value, which is reported as such, or break off
because a value is not of the sort that the step takes apart. `Misshapen` describes the action
documents at which reading breaks off.

Results:
* `breaks_bind_iff`: where a sequence of steps breaks off.
* `breaks_toMembers_iff`: which values cannot be taken as settings.
* `breaks_ofDocument_iff`: reading an action breaks off exactly at a misshapen document.
-/

namespace AlbListener

/-! ## Steps that break off -/

section

variable {α β : Type}

/-- A reading step fails, but not because it refuses a value. -/
def Breaks (step : Except Fault α) : Prop :=
  ∃ fault, step = .error fault ∧ fault.isInvalid = false

theorem not_breaks_ok (value : α) : ¬Breaks (.ok value) := by
  rintro ⟨_, h, -⟩
  cases h

theorem not_breaks_invalid (reason : Invalid) : ¬Breaks (.error (.invalid reason) : Except Fault α) := by
  rintro ⟨_, h, hf⟩
  cases h
  cases hf

theorem breaks_error {fault : Fault} (h : fault.isInvalid = false) :
    Breaks (.error fault : Except Fault α) := ⟨fault, rfl, h⟩

theorem breaks_bind_iff {step : Except Fault α} {next : α → Except Fault β} :
    Breaks (step >>= next) ↔ Breaks step ∨ ∃ value, step = .ok value ∧ Breaks (next value) := by
  cases step with
  | error fault =>
    refine ⟨fun ⟨_, h, hf⟩ => .inl ?_, ?_⟩
    · cases h
      exact ⟨fault, rfl, hf⟩
    · rintro (⟨_, h, hf⟩ | ⟨_, h, -⟩)
      · cases h
        exact ⟨fault, rfl, hf⟩
      · cases h
  | ok value =>
    refine ⟨fun h => .inr ⟨value, rfl, h⟩, ?_⟩
    rintro (h | ⟨_, hv, h⟩)
    · exact absurd h (not_breaks_ok value)
    · cases hv
      exact h

theorem breaks_bind_of_ok {step : Except Fault α} {value : α} (h : step = .ok value)
    (next : α → Except Fault β) : Breaks (step >>= next) ↔ Breaks (next value) := by
  rw [bind_of_eq_ok h]

end

namespace Json

/-! ## Sorts of values -/

/-- Whether a value holds nothing and is no text: null, booleans and numbers. -/
def isAtom : Json → Bool
  | .str _ | .arr _ | .obj _ => false
  | _ => true

/-- Whether a value is an object. -/
def isObject : Json → Bool
  | .obj _ => true
  | _ => false

theorem isObject_iff {value : Json} : value.isObject = true ↔ ∃ members, value = obj members := by
  cases value <;> simp [isObject]

/-- The member that an object is given, or null. -/
def given (members : List (String × Json)) (name : String) : Json :=
  (Entries.get? members name).getD null

theorem get?_of_given {members : List (String × Json)} {name : String} {value : Json}
    (h : given members name = value) (hn : value ≠ null) :
    Entries.get? members name = some value := by
  unfold given at h
  cases hget : Entries.get? members name with
  | none =>
    rw [hget] at h
    exact absurd h.symm hn
  | some found =>
    rw [hget] at h
    exact congrArg some h

/-- The value that stands in for one that is not given. -/
theorem orElse_of_isTruthy {value other : Json} (h : value.isTruthy = true) :
    value.orElse other = value := if_pos h

theorem orElse_of_not_isTruthy {value other : Json} (h : ¬value.isTruthy = true) :
    value.orElse other = other := if_neg h

theorem breaks_getD_iff {value default : Json} {name : String} :
    Breaks (value.getD name default) ↔ value.isObject = false := by
  cases value with
  | obj members =>
    rw [getD_obj]
    exact iff_of_false (not_breaks_ok _) Bool.noConfusion
  | _ => exact iff_of_true (breaks_error rfl) rfl

theorem breaks_size_iff {value : Json} : Breaks value.size ↔ value.isAtom = true := by
  cases value with
  | obj | arr | str => exact iff_of_false (not_breaks_ok _) Bool.noConfusion
  | _ => exact iff_of_true (breaks_error rfl) rfl

/-! ## Settings -/

/-- Values of which one, before the first sequence that is not of two, is no sequence or has a
    name that cannot be looked up. -/
inductive Unpaired : List Json → Prop
  | atom {value : Json} {rest : List Json} (h : value.isAtom = true) : Unpaired (value :: rest)
  | compound {value name setting : Json} {rest : List Json}
      (h : value.elements = .ok [name, setting]) (hn : name.isCompound = true) :
      Unpaired (value :: rest)
  | later {value name setting : Json} {rest : List Json}
      (h : value.elements = .ok [name, setting]) (hn : name.isCompound = false)
      (hr : Unpaired rest) : Unpaired (value :: rest)

/-- A value that cannot be taken as settings: it is neither an object nor a sequence of pairs
    whose names are texts. -/
inductive NoMembers : Json → Prop
  | atom {value : Json} (h : value.isAtom = true) : NoMembers value
  | unpaired {elements : List Json} (h : Unpaired elements) : NoMembers (.arr elements)
  | unnamed {elements : List Json} {found : List (Json × Json)} {entry : Json × Json}
      (h : pairs 0 elements = .ok found) (hm : entry ∈ found) (hn : ∀ s, entry.1 ≠ .str s) :
      NoMembers (.arr elements)

theorem breaks_pair_iff {index : ℕ} {value : Json} :
    Breaks (pair index value) ↔ value.isAtom = true := by
  cases value with
  | obj | arr | str =>
    refine iff_of_false ?_ Bool.noConfusion
    unfold pair
    split
    · exact not_breaks_ok _
    · exact not_breaks_invalid _
    · rename_i h
      cases h
  | _ => exact iff_of_true (breaks_error rfl) rfl

theorem pair_eq_ok_iff {index : ℕ} {value name setting : Json} :
    pair index value = .ok (name, setting) ↔ value.elements = .ok [name, setting] := by
  unfold pair
  constructor
  · intro h
    split at h
    · rename_i heq
      cases h
      exact heq
    · cases h
    · cases h
  · intro h
    rw [h]

theorem breaks_pairs_iff {index : ℕ} {values : List Json} :
    Breaks (pairs index values) ↔ Unpaired values := by
  induction values generalizing index with
  | nil => exact iff_of_false (not_breaks_ok _) fun h => by cases h
  | cons value rest ih =>
    rw [pairs, breaks_bind_iff, breaks_pair_iff]
    constructor
    · rintro (h | ⟨⟨name, setting⟩, h, hn⟩)
      · exact .atom h
      · rw [pair_eq_ok_iff] at h
        dsimp only at hn
        split_ifs at hn with hc
        · exact .compound h hc
        · rw [breaks_bind_iff, ih] at hn
          rcases hn with hn | ⟨_, -, hn⟩
          · exact .later h (Bool.not_eq_true _ |>.mp hc) hn
          · exact absurd hn (not_breaks_ok _)
    · rintro (h | ⟨h, hc⟩ | ⟨h, hc, hr⟩)
      · exact .inl h
      · refine .inr ⟨_, pair_eq_ok_iff.mpr h, ?_⟩
        rw [if_pos hc]
        exact breaks_error rfl
      · refine .inr ⟨_, pair_eq_ok_iff.mpr h, ?_⟩
        rw [if_neg (Bool.not_eq_true _ |>.mpr hc), breaks_bind_iff, ih]
        exact .inl hr

theorem breaks_namedPairs_iff {entries : List (Json × Json)} :
    Breaks (namedPairs entries) ↔ ∃ entry ∈ entries, ∀ s, entry.1 ≠ .str s := by
  induction entries with
  | nil => exact iff_of_false (not_breaks_ok _) fun ⟨_, hm, _⟩ => by cases hm
  | cons entry rest ih =>
    obtain ⟨name, setting⟩ := entry
    cases name with
    | str s =>
      rw [namedPairs, breaks_bind_iff, ih]
      constructor
      · rintro (⟨entry, hm, hn⟩ | ⟨_, -, h⟩)
        · exact ⟨entry, List.mem_cons_of_mem _ hm, hn⟩
        · exact absurd h (not_breaks_ok _)
      · rintro ⟨entry, hm, hn⟩
        rcases List.mem_cons.mp hm with rfl | hm
        · exact absurd rfl (hn s)
        · exact .inl ⟨entry, hm, hn⟩
    | _ => exact iff_of_true (breaks_error rfl) ⟨_, List.mem_cons_self, fun _ h => by cases h⟩

/-- A text is refused as settings unless it is empty. -/
theorem not_breaks_toMembers_str (s : String) : ¬Breaks (str s).toMembers := by
  unfold toMembers
  dsimp only
  rw [elements, bind_of_eq_ok rfl]
  cases s.toList with
  | nil => exact not_breaks_ok _
  | cons c cs =>
    have hpair : pair 0 (.str (String.ofList [c])) = .error (.invalid (.pairLength 0 1)) := by
      rw [pair, elements, String.toList_ofList]
      rfl
    rw [List.map_cons, pairs, bind_of_eq_error hpair]
    exact not_breaks_invalid _

theorem breaks_toMembers_iff {value : Json} : Breaks value.toMembers ↔ NoMembers value := by
  cases value with
  | obj members => exact iff_of_false (not_breaks_ok _) fun h => by cases h with | atom h => cases h
  | str s =>
    exact iff_of_false (not_breaks_toMembers_str s) fun h => by cases h with | atom h => cases h
  | arr elements =>
    unfold toMembers
    dsimp only
    rw [Json.elements, bind_of_eq_ok rfl, breaks_bind_iff, breaks_pairs_iff]
    constructor
    · rintro (h | ⟨found, hfound, h⟩)
      · exact .unpaired h
      · rw [breaks_bind_iff, breaks_namedPairs_iff] at h
        rcases h with ⟨entry, hm, hn⟩ | ⟨_, -, h⟩
        · exact .unnamed hfound hm hn
        · exact absurd h (not_breaks_ok _)
    · rintro (h | h | ⟨hfound, hm, hn⟩)
      · cases h
      · exact .inl h
      · refine .inr ⟨_, hfound, ?_⟩
        rw [breaks_bind_iff, breaks_namedPairs_iff]
        exact .inl ⟨_, hm, hn⟩
  | _ => exact iff_of_true (breaks_error rfl) (.atom rfl)

end Json

namespace Action

open Json (given)

/-! ## Actions -/

/-- A forward whose target groups cannot be taken apart. -/
inductive ForwardMisshapen (members : List (String × Json)) : Prop
  | config (hc : (given members "ForwardConfig").isTruthy = true)
      (ho : (given members "ForwardConfig").isObject = false)
  | groups {settings : List (String × Json)} (hc : given members "ForwardConfig" = .obj settings)
      (hg : (given settings "TargetGroups").isTruthy = true)
      (ha : (given settings "TargetGroups").isAtom = true)
  | group {settings : List (String × Json)} (hc : given members "ForwardConfig" = .obj settings)
      (hs : (given settings "TargetGroups").size = .ok 1)
      (harn : (given members "TargetGroupArn").isTruthy = false)
      (hg : ∀ group, given settings "TargetGroups" ≠ .arr [.obj group])

/-- A config of which it cannot be said whether it has a status code, or whose status code
    cannot be taken from it. -/
def NoStatusMember (config : Json) : Prop :=
  config.isTruthy = true ∧ config.isObject = false ∧ config.mentions "StatusCode" ≠ .ok false

/-- An action document at which reading breaks off. -/
def Misshapen (members : List (String × Json)) : Prop :=
  match typeOf? (given members "Type") with
  | some .forward => ForwardMisshapen members
  | some .fixedResponse => NoStatusMember (given members "FixedResponseConfig")
  | some .redirect => NoStatusMember (given members "RedirectConfig")
  | some (.authenticate provider) =>
    ∃ value, Entries.get? members provider.configName = some value ∧ value.NoMembers
  | none => False

/-- The size of a sequence tells whether it counts as given. -/
theorem exists_size {value : Json} (h : value.isAtom = false) :
    ∃ n, value.size = .ok n ∧ (value.isTruthy = true ↔ n ≠ 0) := by
  cases value with
  | arr elements => exact ⟨_, rfl, by cases elements <;> simp [Json.isTruthy]⟩
  | obj members => exact ⟨_, rfl, by cases members <;> simp [Json.isTruthy]⟩
  | str s =>
    refine ⟨_, rfl, ?_⟩
    rw [Json.isTruthy, bne_iff_ne, ne_eq, ne_eq, List.length_eq_zero_iff, String.toList_eq_nil_iff]
  | _ => cases h

/-- Of one group the target group can be taken only if it is an object in an array. -/
theorem breaks_firstGroup_iff {groups : Json} (hs : groups.size = .ok 1) :
    Breaks (groups.first >>= fun group => group.getD "TargetGroupArn" .null) ↔
      ∀ group, groups ≠ .arr [.obj group] := by
  cases groups with
  | obj members => exact iff_of_true (breaks_error rfl) fun _ h => by cases h
  | str s =>
    refine iff_of_true ?_ fun _ h => by cases h
    obtain ⟨c, hc⟩ := List.length_eq_one_iff.mp (Except.ok.inj hs)
    have hfirst : (Json.str s).first = .ok (.str (String.ofList [c])) := by rw [Json.first, hc]
    rw [breaks_bind_of_ok hfirst, Json.breaks_getD_iff]
    rfl
  | arr elements =>
    obtain ⟨element, rfl⟩ := List.length_eq_one_iff.mp (Except.ok.inj hs)
    rw [Json.first, breaks_bind_of_ok rfl, Json.breaks_getD_iff, ← Bool.not_eq_true,
      Json.isObject_iff]
    simp
  | _ => cases hs

/-- Where the groups of a forward are taken apart, given what is named at the top. -/
theorem breaks_groups_iff (arn groups : Json) {finish : Json → Except Fault Action}
    (hf : ∀ arn, ¬Breaks (finish arn)) :
    Breaks (groups.size >>= fun n =>
      if n > 1 then .error (.invalid .weightedForward)
      else if (!arn.isTruthy && groups.isTruthy) = true then
        groups.first >>= fun group => group.getD "TargetGroupArn" .null >>= finish
      else pure arn >>= finish) ↔
    groups.isAtom = true ∨ (groups.size = .ok 1 ∧ arn.isTruthy = false ∧
      ∀ group, groups ≠ .arr [.obj group]) := by
  rw [breaks_bind_iff, Json.breaks_size_iff]
  refine or_congr_right ?_
  constructor
  · rintro ⟨n, hn, hb⟩
    split_ifs at hb with hmany harn
    · exact absurd hb (not_breaks_invalid _)
    · rw [Bool.and_eq_true, Bool.not_eq_true'] at harn
      have hatom : groups.isAtom = false := by
        rw [← Bool.not_eq_true, ← Json.breaks_size_iff, hn]
        exact not_breaks_ok _
      obtain ⟨m, hm, htruthy⟩ := exists_size hatom
      obtain rfl : n = m := Except.ok.inj (hn.symm.trans hm)
      obtain rfl : n = 1 := by have := htruthy.mp harn.2; omega
      refine ⟨hn, harn.1, ?_⟩
      rw [← breaks_firstGroup_iff hn, breaks_bind_iff]
      rw [breaks_bind_iff] at hb
      refine hb.imp_right fun ⟨group, hgroup, hb⟩ => ⟨group, hgroup, ?_⟩
      rw [breaks_bind_iff] at hb
      exact hb.resolve_right fun ⟨arn, _, hb⟩ => hf arn hb
    · rw [pure_bind] at hb
      exact absurd hb (hf arn)
  · rintro ⟨hn, harn, hgroups⟩
    refine ⟨1, hn, ?_⟩
    have hatom : groups.isAtom = false := by
      rw [← Bool.not_eq_true, ← Json.breaks_size_iff, hn]
      exact not_breaks_ok _
    obtain ⟨m, hm, htruthy⟩ := exists_size hatom
    obtain rfl : 1 = m := Except.ok.inj (hn.symm.trans hm)
    rw [if_neg (by decide), if_pos (by rw [harn, htruthy.mpr (by decide)]; rfl)]
    have hb := (breaks_firstGroup_iff hn).mpr hgroups
    rw [breaks_bind_iff] at hb ⊢
    refine hb.imp_right fun ⟨group, hgroup, hb⟩ => ⟨group, hgroup, ?_⟩
    exact breaks_bind_iff.mpr (.inl hb)

/-- The groups of a forward that are taken apart: none if they are not given. -/
theorem breaks_givenGroups_iff (arn groups : Json) {finish : Json → Except Fault Action}
    (hf : ∀ arn, ¬Breaks (finish arn)) :
    Breaks ((groups.orElse (.arr [])).size >>= fun n =>
      if n > 1 then .error (.invalid .weightedForward)
      else if (!arn.isTruthy && (groups.orElse (.arr [])).isTruthy) = true then
        (groups.orElse (.arr [])).first >>= fun group =>
          group.getD "TargetGroupArn" .null >>= finish
      else pure arn >>= finish) ↔
    (groups.isTruthy = true ∧ groups.isAtom = true) ∨ (groups.size = .ok 1 ∧
      arn.isTruthy = false ∧ ∀ group, groups ≠ .arr [.obj group]) := by
  rw [breaks_groups_iff arn _ hf]
  by_cases h : groups.isTruthy = true
  · rw [Json.orElse_of_isTruthy h]
    exact or_congr_left (by rw [h, eq_self_iff_true, true_and])
  · rw [Json.orElse_of_not_isTruthy h]
    refine iff_of_false ?_ ?_
    · rintro (ha | ⟨hs, -⟩)
      · cases ha
      · cases hs
    · rintro (⟨ht, -⟩ | ⟨hs, -⟩)
      · exact h ht
      · have hatom : groups.isAtom = false := by
          rw [← Bool.not_eq_true, ← Json.breaks_size_iff, hs]
          exact not_breaks_ok _
        obtain ⟨m, hm, htruthy⟩ := exists_size hatom
        obtain rfl : 1 = m := Except.ok.inj (hs.symm.trans hm)
        exact h (htruthy.mpr (by decide))

theorem breaks_forwardOf_iff {members : List (String × Json)} :
    Breaks (forwardOf (.obj members)) ↔ ForwardMisshapen members := by
  have hfinish (arn : Json) : ¬Breaks (if arn.isTruthy = true then .ok (forward arn)
      else .error (.invalid .noTargetGroup) : Except Fault Action) := by
    split_ifs
    · exact not_breaks_ok _
    · exact not_breaks_invalid _
  have hgroups (settings : List (String × Json)) := breaks_givenGroups_iff
    (given members "TargetGroupArn") (given settings "TargetGroups") hfinish
  unfold forwardOf
  rw [Json.getD_obj, breaks_bind_of_ok rfl]
  change Breaks (((given members "ForwardConfig").orElse (.obj [])).getD _ _ >>= _) ↔ _
  by_cases ht : (given members "ForwardConfig").isTruthy = true
  · rw [Json.orElse_of_isTruthy ht]
    by_cases ho : (given members "ForwardConfig").isObject = true
    · obtain ⟨settings, hc⟩ := Json.isObject_iff.mp ho
      rw [hc, Json.getD_obj, breaks_bind_of_ok rfl]
      refine (hgroups settings).trans ⟨?_, ?_⟩
      · rintro (⟨hg, ha⟩ | ⟨hs, harn, hg⟩)
        · exact .groups hc hg ha
        · exact .group hc hs harn hg
      · rintro (⟨-, hno⟩ | ⟨hc', hg, ha⟩ | ⟨hc', hs, harn, hg⟩)
        · rw [ho] at hno
          cases hno
        · cases hc.symm.trans hc'
          exact .inl ⟨hg, ha⟩
        · cases hc.symm.trans hc'
          exact .inr ⟨hs, harn, hg⟩
    · rw [Bool.not_eq_true] at ho
      exact iff_of_true (breaks_bind_iff.mpr (.inl (Json.breaks_getD_iff.mpr ho))) (.config ht ho)
  · rw [Json.orElse_of_not_isTruthy ht, Json.getD_obj, breaks_bind_of_ok rfl]
    refine iff_of_false ?_ ?_
    · refine mt (hgroups []).mp ?_
      rintro (⟨hg, -⟩ | ⟨hs, -⟩)
      · cases hg
      · cases hs
    · -- an object that does not count as given has no members
      have hnil {settings : List (String × Json)} (hc : given members "ForwardConfig" = .obj settings) :
          settings = [] := by
        rw [hc] at ht
        cases settings with
        | nil => rfl
        | cons => exact absurd rfl ht
      rintro (⟨ht', -⟩ | ⟨hc, hg, -⟩ | ⟨hc, hs, -⟩)
      · exact ht ht'
      · cases hnil hc
        cases hg
      · cases hnil hc
        cases hs

/-- A member that occurs in an object can be taken from it. -/
theorem exists_member_of_has {members : List (String × Json)} {name : String}
    (h : Entries.has members name = true) : ∃ value, (Json.obj members).member name = .ok value := by
  rw [Entries.has, Option.isSome_iff_exists] at h
  obtain ⟨value, hv⟩ := h
  exact ⟨value, Json.member_obj_eq_ok_iff.mpr hv⟩

/-- Where the status code is taken from a config, and what follows reads members only. -/
theorem breaks_statusCode_iff (value : Json) (reason : Invalid)
    (rest : Json → Json → Except Fault Action)
    (hr : ∀ members status, ¬Breaks (rest (.obj members) status)) :
    Breaks ((value.orElse (.obj [])).mentions "StatusCode" >>= fun has =>
      if (!has) = true then .error (.invalid reason)
      else (value.orElse (.obj [])).member "StatusCode" >>= rest (value.orElse (.obj []))) ↔
    NoStatusMember value := by
  by_cases ht : value.isTruthy = true
  · rw [Json.orElse_of_isTruthy ht]
    -- a config that mentions the name without being an object
    have hmentions {has : Bool} (hm : value.mentions "StatusCode" = .ok has)
        (ho : value.isObject = false) (hb : Breaks (value.member "StatusCode")) :
        Breaks (value.mentions "StatusCode" >>= fun has =>
          if (!has) = true then .error (.invalid reason)
          else value.member "StatusCode" >>= rest value) ↔ NoStatusMember value := by
      rw [breaks_bind_of_ok hm, NoStatusMember, hm]
      cases has with
      | true => exact iff_of_true (breaks_bind_iff.mpr (.inl hb)) ⟨ht, ho, by simp⟩
      | false => exact iff_of_false (not_breaks_invalid _) fun h => h.2.2 rfl
    cases value with
    | obj members =>
      refine iff_of_false ?_ fun h => by cases h.2.1
      rw [Json.mentions_obj, breaks_bind_of_ok rfl]
      split_ifs with hhas
      · exact not_breaks_invalid _
      · obtain ⟨status, hs⟩ := exists_member_of_has (by simpa using hhas)
        rw [breaks_bind_of_ok hs]
        exact hr members status
    | arr elements => exact hmentions rfl rfl (breaks_error rfl)
    | str s => exact hmentions rfl rfl (breaks_error rfl)
    | _ =>
      exact iff_of_true (breaks_bind_iff.mpr (.inl (breaks_error rfl)))
        ⟨ht, rfl, fun h => by cases h⟩
  · rw [Json.orElse_of_not_isTruthy ht]
    exact iff_of_false (not_breaks_invalid _) fun h => ht h.1

theorem breaks_fixedResponseOf_iff {members : List (String × Json)} :
    Breaks (fixedResponseOf (.obj members)) ↔
      NoStatusMember (given members "FixedResponseConfig") := by
  unfold fixedResponseOf
  rw [Json.getD_obj, breaks_bind_of_ok rfl]
  exact breaks_statusCode_iff _ _
    (fun config status => do
      return .fixedResponse (.str status.display) (← config.getD "ContentType" .null)
        (← config.getD "MessageBody" .null))
    fun _ _ => not_breaks_ok _

theorem breaks_redirectOf_iff {members : List (String × Json)} :
    Breaks (redirectOf (.obj members)) ↔ NoStatusMember (given members "RedirectConfig") := by
  unfold redirectOf
  rw [Json.getD_obj, breaks_bind_of_ok rfl]
  exact breaks_statusCode_iff _ _
    (fun config status => do
      return .redirect status (← config.getD "Protocol" keepProtocol)
        (.str (← config.getD "Port" keepPort).display) (← config.getD "Host" keepHost)
        (← config.getD "Path" keepPath) (← config.getD "Query" keepQuery))
    fun _ _ => not_breaks_ok _

theorem breaks_authenticateOf_iff {provider : Provider} {members : List (String × Json)} :
    Breaks (authenticateOf provider (.obj members)) ↔
      ∃ value, Entries.get? members provider.configName = some value ∧ value.NoMembers := by
  unfold authenticateOf
  rw [Json.mentions_obj, breaks_bind_of_ok rfl, Entries.has]
  cases hget : Entries.get? members provider.configName with
  | none => exact iff_of_false (not_breaks_invalid _) fun ⟨_, h, _⟩ => by cases h
  | some value =>
    rw [if_neg (by simp), breaks_bind_of_ok (Json.member_obj_eq_ok_iff.mpr hget), breaks_bind_iff,
      Json.breaks_toMembers_iff]
    constructor
    · rintro (h | ⟨_, -, h⟩)
      · exact ⟨value, rfl, h⟩
      · exact absurd h (not_breaks_ok _)
    · rintro ⟨_, hv, h⟩
      cases hv
      exact .inl h

/-- Reading an action breaks off exactly at a misshapen document. -/
theorem breaks_ofDocument_iff {members : List (String × Json)} :
    Breaks (ofDocument (.obj members)) ↔ Misshapen members := by
  unfold ofDocument Misshapen
  rw [Json.getD_obj, breaks_bind_of_ok rfl, given]
  cases typeOf? ((Entries.get? members "Type").getD .null) with
  | none => exact iff_of_false (not_breaks_invalid _) id
  | some type =>
    cases type with
    | forward => exact breaks_forwardOf_iff
    | fixedResponse => exact breaks_fixedResponseOf_iff
    | redirect => exact breaks_redirectOf_iff
    | authenticate provider => exact breaks_authenticateOf_iff

end Action

end AlbListener

import AlbListener.Proofs.Json.Agreement
import AlbListener.Proofs.Json.Scalars
import AlbListener.Proofs.Request.Accepts
import AlbListener.Proofs.Request.Failures
import AlbListener.Proofs.Yaml.Form

/-!
# Target groups of a request

An entry of a request names a port of a service (`ServicePort`): by a number, however it is written
and in digits of any script, or by a name. What is collected is a table of these ports, in the order
in which they first come, with the arn of the last entry that names each.

Results:
* `Backend.Is.same_iff`: backends are the same exactly if they stand for the same port of a service.
* `Collected.put`: what one more entry changes.
* `targetGroups_of_loaded`: what is collected of a document, what is warned of, and where the default
  backend is forwarded to.
-/

namespace AlbListener

/-! ## Ports of services -/

/-- A port of a service by its number, or by a name, which is no number. -/
inductive PortKey
  | number (n : ℤ)
  | name (s : String)
  deriving DecidableEq

/-- A port of a service, by the name of the service. -/
structure ServicePort where
  service : String
  port : PortKey
  deriving DecidableEq

/-- What a value stands for as a port: a whole number for itself, a text of digits for the number it
    denotes, and any other text for a name. -/
inductive Json.Denotes : Json → PortKey → Prop
  | number {value : Json} {n : ℤ} (h : value.IsInteger n) : Denotes value (.number n)
  | digits {s : String} {n : ℤ} (hd : Text.allDigits s = true) (h : Text.readInt? s = some n) :
      Denotes (.str s) (.number n)
  | name {s : String} (h : Text.allDigits s = false) : Denotes (.str s) (.name s)

/-- The values that are a port, once digits have been read. -/
def PortKey.Of : PortKey → Json → Prop
  | .number n, value => value.IsInteger n
  | .name s, value => value = .str s

/-- What names a port of a service: an entry, or a default backend. -/
structure Names (data : Json) (key : ServicePort) : Prop where
  service : data.member "serviceName" = .ok (.str key.service)
  port : ∃ given, data.member "servicePort" = .ok given ∧ given.Denotes key.port

/-- A backend that is a port of a service. -/
structure Backend.Is (b : Backend) (key : ServicePort) : Prop where
  service : b.serviceName = .str key.service
  port : key.port.Of b.servicePort

theorem Json.Denotes.unique {value : Json} {key key' : PortKey} (h : value.Denotes key)
    (h' : value.Denotes key') : key = key' := by
  cases h with
  | number hn =>
    cases h' with
    | number hn' => rw [hn.unique hn']
    | _ => cases hn
  | digits hd hn =>
    cases h' with
    | number hn' => cases hn'
    | digits _ hn' => rw [Option.some.inj (hn.symm.trans hn')]
    | name hd' => cases hd.symm.trans hd'
  | name hd =>
    cases h' with
    | number hn' => cases hn'
    | digits hd' _ => cases hd.symm.trans hd'
    | name _ => rfl

theorem Names.unique {data : Json} {key key' : ServicePort} (h : Names data key)
    (h' : Names data key') : key = key' := by
  obtain ⟨given, hgiven, hport⟩ := h.port
  obtain ⟨given', hgiven', hport'⟩ := h'.port
  cases hgiven.symm.trans hgiven'
  have hservice := h.service.symm.trans h'.service
  cases key
  cases key'
  cases hservice
  cases hport.unique hport'
  rfl

namespace Backend

/-- A port is what the value that is given for it denotes. -/
theorem of_denotes {value port : Json} {key : PortKey} (h : value.Denotes key)
    (hp : portOf value = .ok port) : key.Of port := by
  cases h with
  | number hn =>
    cases value with
    | str s => cases hn
    | _ => cases hp; exact hn
  | digits hd hn =>
    rw [portOf, if_pos hd, Json.toInteger, hn] at hp
    cases hp
    exact Json.isInteger_int _
  | name hd =>
    rw [portOf, hd, if_neg Bool.false_ne_true] at hp
    cases hp
    rfl

/-- What is given for a port denotes one if it can be read. -/
theorem exists_denotes {value port : Json} (hc : Check.servicePort value = [])
    (hp : portOf value = .ok port) : ∃ key, value.Denotes key := by
  rcases Check.of_servicePort hc with ⟨n, hn⟩ | ⟨s, rfl⟩
  · exact ⟨_, .number hn⟩
  · cases hd : Text.allDigits s with
    | false => exact ⟨_, .name hd⟩
    | true =>
      rw [portOf, if_pos hd, Json.toInteger] at hp
      cases hn : Text.readInt? s with
      | none =>
        rw [hn] at hp
        cases hp
      | some n => exact ⟨_, .digits hd hn⟩

/-- What is read of what names a port of a service is that port. -/
theorem is_of_names {data : Json} {b : Backend} {key : ServicePort} (h : Names data key)
    (hb : ofDocument data = .ok b) : b.Is key := by
  obtain ⟨given, hgiven, hport⟩ := h.port
  obtain ⟨given', hgiven', hb⟩ := bind_eq_ok_iff.mp hb
  obtain ⟨port, hp, hb⟩ := bind_eq_ok_iff.mp hb
  obtain ⟨service, hs, hb⟩ := bind_eq_ok_iff.mp hb
  cases hb
  cases hgiven.symm.trans hgiven'
  exact ⟨Except.ok.inj (hs.symm.trans h.service), of_denotes hport hp⟩

/-- Whatever is read as a backend, and has the form of one, names a port of a service. -/
theorem exists_names {data : Json} {b : Backend}
    (hname : Check.property "serviceName" Check.text data = [])
    (hport : Check.property "servicePort" Check.servicePort data = [])
    (hb : ofDocument data = .ok b) : ∃ key, Names data key := by
  obtain ⟨given, hgiven, hb⟩ := bind_eq_ok_iff.mp hb
  obtain ⟨port, hp, hb⟩ := bind_eq_ok_iff.mp hb
  obtain ⟨service, hs, -⟩ := bind_eq_ok_iff.mp hb
  obtain ⟨text, rfl⟩ := Check.of_text (Check.check_of_member hname hs)
  obtain ⟨key, hkey⟩ := exists_denotes (Check.check_of_member hport hgiven) hp
  exact ⟨⟨text, key⟩, hs, given, hgiven, hkey⟩

end Backend

theorem PortKey.Of.plain {value : Json} {key : PortKey} (h : key.Of value) :
    value.isCompound = false := by
  cases key with
  | number n => exact Json.isCompound_of_isWhole ⟨n, h⟩
  | name s =>
    cases h
    rfl

theorem PortKey.Of.agrees_iff {a b : Json} {key key' : PortKey} (ha : key.Of a) (hb : key'.Of b) :
    a.Agrees b ↔ key = key' := by
  constructor
  · intro h
    cases key with
    | number n =>
      cases key' with
      | number m =>
        cases h with
        | number hx hy =>
          cases (hx.symm.trans ha : some _ = some (Number.ofInt n))
          rw [Number.ofInt_inj.mp (Option.some.inj (hy.symm.trans hb))]
        | _ => cases ha
      | name t =>
        cases hb
        cases h with
        | str _ => cases ha
        | number _ hy => cases hy
    | name s =>
      cases ha
      cases key' with
      | number m =>
        cases h with
        | str _ => cases hb
        | number hx _ => cases hx
      | name t =>
        cases hb
        cases h with
        | str _ => rfl
        | number hx _ => cases hx
  · rintro rfl
    cases key with
    | number n => exact .number ha hb
    | name s =>
      cases ha
      cases hb
      exact .str s

/-- Backends are the same exactly if they are the same port of the same service. -/
theorem Backend.Is.same_iff {a b : Backend} {key key' : ServicePort} (ha : a.Is key)
    (hb : b.Is key') : a.same b = true ↔ key = key' := by
  have hport := ha.port.agrees_iff hb.port
  rw [Json.agrees_iff_sameScalar ha.port.plain, ← Json.same_eq_sameScalar ha.port.plain] at hport
  rw [same, Bool.and_eq_true, hport, ha.service, hb.service, Json.same_eq_sameScalar rfl]
  obtain ⟨service, port⟩ := key
  obtain ⟨service', port'⟩ := key'
  simp [Json.sameScalar]

/-! ## Tables of target groups -/

/-- The arn of the last entry that names a port of a service. -/
def LastArn (entries : List Json) (key : ServicePort) (arn : Json) : Prop :=
  ∃ before entry after, entries = before ++ entry :: after ∧ Names entry key ∧
    entry.member "targetGroupArn" = .ok arn ∧ ∀ later ∈ after, ¬Names later key

theorem LastArn.exists_names {entries : List Json} {key : ServicePort} {arn : Json}
    (h : LastArn entries key arn) : ∃ entry ∈ entries, Names entry key := by
  obtain ⟨before, entry, after, rfl, hnames, -⟩ := h
  exact ⟨entry, List.mem_append_right _ List.mem_cons_self, hnames⟩

/-- Of two decompositions of a list, one begins with the other. -/
theorem mem_or_mem_of_append_cons {α : Type} {xs xs' ys ys' : List α} {x y : α}
    (h : xs ++ x :: ys = xs' ++ y :: ys') : (x = y ∧ ys = ys') ∨ y ∈ ys ∨ x ∈ ys' := by
  rcases List.append_eq_append_iff.mp h with ⟨more, -, hmore⟩ | ⟨more, -, hmore⟩
  · cases more with
    | nil =>
      cases hmore
      exact .inl ⟨rfl, rfl⟩
    | cons z more =>
      cases hmore
      exact .inr (.inl (by simp))
  · cases more with
    | nil =>
      cases hmore
      exact .inl ⟨rfl, rfl⟩
    | cons z more =>
      cases hmore
      exact .inr (.inr (by simp))

theorem LastArn.unique {entries : List Json} {key : ServicePort} {arn arn' : Json}
    (h : LastArn entries key arn) (h' : LastArn entries key arn') : arn = arn' := by
  obtain ⟨before, entry, after, rfl, hnames, harn, hafter⟩ := h
  obtain ⟨before', entry', after', heq, hnames', harn', hafter'⟩ := h'
  rcases mem_or_mem_of_append_cons heq with ⟨rfl, -⟩ | hm | hm
  · exact Except.ok.inj (harn.symm.trans harn')
  · exact absurd hnames' (hafter _ hm)
  · exact absurd hnames (hafter' _ hm)

/-- An entry that names another port does not matter. -/
theorem LastArn.concat {entries : List Json} {key : ServicePort} {arn : Json}
    (h : LastArn entries key arn) {entry : Json} (hother : ¬Names entry key) :
    LastArn (entries ++ [entry]) key arn := by
  obtain ⟨before, last, after, rfl, hnames, harn, hafter⟩ := h
  refine ⟨before, last, after ++ [entry], by simp, hnames, harn, ?_⟩
  exact List.forall_mem_append.mpr ⟨hafter, List.forall_mem_singleton.mpr hother⟩

/-- The last entry gives the arn of the port that it names. -/
theorem lastArn_concat (entries : List Json) {entry arn : Json} {key : ServicePort}
    (hnames : Names entry key) (harn : entry.member "targetGroupArn" = .ok arn) :
    LastArn (entries ++ [entry]) key arn :=
  ⟨entries, entry, [], rfl, hnames, harn, nofun⟩

namespace TargetGroups

/-- A table of target groups has rows for ports of services, and a property relates each port to
    the arn that stands beside it. -/
abbrev Rows (P : ServicePort → Json → Prop) (groups : TargetGroups) (keys : List ServicePort) :
    Prop :=
  List.Forall₂ (fun group key => group.1.Is key ∧ P key group.2) groups keys

variable {P Q : ServicePort → Json → Prop} {groups : TargetGroups} {keys : List ServicePort}
  {b : Backend} {key : ServicePort} {arn : Json}

/-- The arn that is found for a port stands beside it. -/
theorem Rows.of_get? (h : Rows P groups keys) (hb : b.Is key) (hget : groups.get? b = some arn) :
    key ∈ keys ∧ P key arn := by
  induction h with
  | nil => cases hget
  | cons hgroup _ ih =>
    rw [get?] at hget
    split_ifs at hget with hsame
    · obtain rfl := (hgroup.1.same_iff hb).mp hsame
      cases hget
      exact ⟨List.mem_cons_self, hgroup.2⟩
    · obtain ⟨hm, harn⟩ := ih hget
      exact ⟨List.mem_cons_of_mem _ hm, harn⟩

/-- For every port of the table an arn is found. -/
theorem Rows.isSome_get?_iff (h : Rows P groups keys) (hb : b.Is key) :
    (groups.get? b).isSome = true ↔ key ∈ keys := by
  induction h with
  | nil => exact iff_of_false nofun nofun
  | cons hgroup _ ih =>
    rw [get?, List.mem_cons, ← ih]
    split_ifs with hsame
    · exact iff_of_true rfl (.inl ((hgroup.1.same_iff hb).mp hsame).symm)
    · refine (or_iff_right fun hkey => hsame ?_).symm
      exact (hgroup.1.same_iff hb).mpr hkey.symm

/-- Storing an arn for a port changes its row, or adds one at the end. -/
theorem Rows.put (h : Rows P groups keys) (hn : keys.Nodup) (hb : b.Is key)
    (hother : ∀ key' ∈ keys, ∀ arn', key' ≠ key → P key' arn' → Q key' arn') (hself : Q key arn) :
    Rows Q (groups.put b arn) (if key ∈ keys then keys else keys ++ [key]) := by
  induction h with
  | nil => exact .cons ⟨hb, hself⟩ .nil
  | @cons group key' groups keys hgroup hrest ih =>
    obtain ⟨hnew, hn⟩ := List.nodup_cons.mp hn
    obtain ⟨hfirst, hother⟩ := List.forall_mem_cons.mp hother
    rw [TargetGroups.put]
    by_cases hkey : key' = key
    · subst hkey
      rw [if_pos ((hgroup.1.same_iff hb).mpr rfl), if_pos List.mem_cons_self]
      refine .cons ⟨hgroup.1, hself⟩ (Json.forall₂_of_forall hrest ?_)
      rintro group - other hm ⟨his, harn⟩
      exact ⟨his, hother other hm _ (ne_of_mem_of_not_mem hm hnew) harn⟩
    · rw [if_neg (mt (hgroup.1.same_iff hb).mp hkey)]
      have hrows := ih hn hother
      have hmem : key ∈ key' :: keys ↔ key ∈ keys := by simp [Ne.symm hkey]
      simp only [hmem]
      split_ifs at hrows ⊢
      · exact .cons ⟨hgroup.1, hfirst _ hkey hgroup.2⟩ hrows
      · exact .cons ⟨hgroup.1, hfirst _ hkey hgroup.2⟩ hrows

theorem length_put (groups : TargetGroups) (b : Backend) (arn : Json) :
    (groups.put b arn).length = if (groups.get? b).isSome then groups.length else groups.length + 1 := by
  induction groups with
  | nil => rfl
  | cons group rest ih =>
    rw [put, get?]
    split_ifs at ih ⊢ <;> simp_all

end TargetGroups

/-! ## What is collected -/

theorem eraseDups_concat (keys : List ServicePort) (key : ServicePort) :
    (keys ++ [key]).eraseDups =
      if key ∈ keys then keys.eraseDups else keys.eraseDups ++ [key] := by
  rw [List.eraseDups_append, List.cons_removeAll]
  by_cases hm : key ∈ keys
  · simp [hm]
  · simp [hm, List.eraseDups_cons]

/-- The target groups of entries, each of which names a port of a service: every port has one row,
    in the order in which the ports first come, with the arn of its last entry. -/
structure Collected (entries : List Json) (keys : List ServicePort) (groups : TargetGroups) :
    Prop where
  names : List.Forall₂ Names entries keys
  distinct : keys.eraseDups.Nodup
  rows : groups.Rows (LastArn entries) keys.eraseDups

namespace Collected

variable {entries : List Json} {keys : List ServicePort} {groups : TargetGroups}
  {key : ServicePort} {b : Backend} {arn : Json}

theorem nil : Collected [] [] [] := ⟨.nil, List.nodup_nil, .nil⟩

/-- What one more entry changes. -/
theorem put (h : Collected entries keys groups) {entry : Json} (hnames : Names entry key)
    (hb : Backend.ofDocument entry = .ok b) (harn : entry.member "targetGroupArn" = .ok arn) :
    Collected (entries ++ [entry]) (keys ++ [key]) (groups.put b arn) := by
  have hrows := h.rows.put h.distinct (Backend.is_of_names hnames hb)
    (fun key' _ arn' hother hlast =>
      hlast.concat fun hnames' => hother (hnames'.unique hnames))
    (lastArn_concat entries hnames harn)
  simp only [List.mem_eraseDups] at hrows
  refine ⟨List.rel_append h.names (.cons hnames .nil), ?_, ?_⟩
  · rw [eraseDups_concat]
    split_ifs with hm
    · exact h.distinct
    · have hnew : key ∉ keys.eraseDups := fun hm' => hm (List.mem_eraseDups.mp hm')
      exact List.nodup_append'.mpr ⟨h.distinct, List.nodup_singleton _,
        List.disjoint_singleton.mpr hnew⟩
  · rwa [eraseDups_concat]

/-- The ports that entries name. -/
theorem mem_keys_iff (h : Collected entries keys groups) :
    key ∈ keys ↔ ∃ entry ∈ entries, Names entry key := by
  have hnames := h.names
  clear h
  induction hnames with
  | nil => exact iff_of_false nofun (by rintro ⟨_, ⟨⟩, _⟩)
  | cons hfirst _ ih =>
    rw [List.mem_cons, List.exists_mem_cons_iff]
    refine or_congr ⟨?_, fun h => h.unique hfirst⟩ ih
    rintro rfl
    exact hfirst

/-- An arn is found exactly if some entry names the port. -/
theorem isSome_get?_iff (h : Collected entries keys groups) (hb : b.Is key) :
    (groups.get? b).isSome = true ↔ ∃ entry ∈ entries, Names entry key := by
  rw [h.rows.isSome_get?_iff hb, List.mem_eraseDups, h.mem_keys_iff]

/-- The arn that is found is the one of the last entry. -/
theorem get?_eq_some_iff (h : Collected entries keys groups) (hb : b.Is key) :
    groups.get? b = some arn ↔ LastArn entries key arn := by
  refine ⟨fun hget => (h.rows.of_get? hb hget).2, fun hlast => ?_⟩
  obtain ⟨found, hfound⟩ := Option.isSome_iff_exists.mp ((h.isSome_get?_iff hb).mpr hlast.exists_names)
  rw [hfound, (h.rows.of_get? hb hfound).2.unique hlast]

end Collected

namespace Request

variable {σ : Type} {s s' : σ}

/-- What is collected of several entries. -/
theorem collected_of_collectGroups {entries rest : List Json} {keys : List ServicePort}
    {groups collected : TargetGroups} (hg : Collected entries keys groups)
    (hc : ∀ entry ∈ rest, Check.targetGroup entry = [])
    (h : (collectGroups groups rest).ending s = (.ok collected, s')) :
    ∃ more, Collected (entries ++ rest) (keys ++ more) collected := by
  induction rest generalizing entries keys groups with
  | nil =>
    cases h
    exact ⟨[], by rwa [List.append_nil, List.append_nil]⟩
  | cons entry rest ih =>
    obtain ⟨hentry, hrest⟩ := List.forall_mem_cons.mp hc
    simp only [Check.targetGroup, Check.all_eq_nil_iff, List.forall_mem_cons] at hentry
    obtain ⟨-, -, hname, hport, -⟩ := hentry
    obtain ⟨b, arn, hb, harn, hnext, -⟩ := collectGroups_cons h
    obtain ⟨key, hkey⟩ := Backend.exists_names hname hport hb
    obtain ⟨more, hmore⟩ := ih (hg.put hkey hb harn) hrest hnext
    rw [List.append_assoc, List.append_assoc] at hmore
    exact ⟨key :: more, hmore⟩

/-- As often as an entry does not add a target group, it is warned of. -/
theorem trace_collectGroups {rest : List Json} {groups collected : TargetGroups}
    (h : (collectGroups groups rest).ending s = (.ok collected, s')) :
    ∃ repeated : List Backend, (collectGroups groups rest s).trace = repeated.map repeatedRecord ∧
      repeated.length + collected.length = rest.length + groups.length := by
  induction rest generalizing groups with
  | nil =>
    cases h
    exact ⟨[], rfl, rfl⟩
  | cons entry rest ih =>
    obtain ⟨b, arn, -, -, hnext, htrace⟩ := collectGroups_cons h
    obtain ⟨repeated, hrepeated, hlength⟩ := ih hnext
    rw [TargetGroups.length_put] at hlength
    rw [htrace, hrepeated]
    split_ifs at hlength ⊢
    · refine ⟨b :: repeated, rfl, ?_⟩
      rw [List.length_cons, List.length_cons]
      omega
    · refine ⟨repeated, rfl, ?_⟩
      rw [List.length_cons]
      omega

/-! ## Documents that are loaded -/

/-- How a document is loaded from its format. A YAML document is taken apart as JSON. -/
inductive Loading (s : σ) : Json → Outcome σ Request → Prop
  | json (document : Json) (keyPrefix : String) (instance? : Option Listener) :
      Loading s document (load document keyPrefix instance? s)
  | yaml (document : Yaml.Value) (keyPrefix : String) (instance? : Option Listener) :
      Loading s document.toJson (load document keyPrefix instance? s)

theorem Loading.of_ok {document : Json} {outcome : Outcome σ Request} {request : Request}
    (h : Loading s document outcome) (hr : outcome.result = .ok request) :
    Check.request document = [] ∧ ∃ keyPrefix instance?,
      outcome = ofDocument document keyPrefix instance? s := by
  cases h with
  | json _ keyPrefix instance? =>
    rw [load] at hr ⊢
    cases hreport : Check.report Check.request document with
    | some violations => rw [hreport] at hr; cases hr
    | none => exact ⟨Check.report_eq_none_iff.mp hreport, keyPrefix, instance?, rfl⟩
  | yaml document keyPrefix instance? =>
    rw [load] at hr ⊢
    cases hreport : Check.report Check.request document with
    | some violations => rw [hreport] at hr; cases hr
    | none => exact ⟨Check.carries_request document (Check.report_eq_none_iff.mp hreport),
        keyPrefix, instance?, rfl⟩

/-- The parts that a request is loaded from, of a document that has the form of one. -/
theorem Loading.parts {document : Json} {outcome : Outcome σ Request} {request : Request}
    (h : Loading s document outcome) (hr : outcome.result = .ok request) :
    Check.request document = [] ∧ ∃ keyPrefix data place entries s₁,
      Parts document keyPrefix request data place entries ∧
      (collectGroups [] entries).ending s = (.ok request.targetGroups, s₁) ∧
      outcome.trace = (collectGroups [] entries s).trace := by
  obtain ⟨hc, keyPrefix, instance?, rfl⟩ := h.of_ok hr
  exact ⟨hc, keyPrefix, parts_of_ofDocument (Prod.ext hr rfl)⟩

/-- The entries of a loaded document, and what each names. -/
theorem Loading.collected {document : Json} {outcome : Outcome σ Request} {request : Request}
    (h : Loading s document outcome) (hr : outcome.result = .ok request) :
    ∃ entries keys, document.getD "targetGroups" (.arr []) = .ok (.arr entries) ∧
      (∀ entry ∈ entries, Check.targetGroup entry = []) ∧
      Collected entries keys request.targetGroups ∧
      ∃ repeated : List Backend, outcome.trace = repeated.map repeatedRecord ∧
        repeated.length + request.targetGroups.length = entries.length := by
  obtain ⟨hc, _, _, _, entries, _, hparts, hcollected, htrace⟩ := h.parts hr
  obtain ⟨found, hfound, helements⟩ := hparts.entries_getD
  simp only [Check.request, Check.all_eq_nil_iff, List.forall_mem_cons] at hc
  obtain ⟨ho, -, -, -, -, hgroups, -⟩ := hc
  obtain ⟨elements, rfl⟩ : ∃ elements, found = .arr elements := by
    rcases Check.check_of_getD hgroups hfound with rfl | hchecked
    · exact ⟨[], rfl⟩
    · simp only [Check.all_eq_nil_iff, List.forall_mem_cons] at hchecked
      exact Check.of_isOf_array (Check.isOf_of_ofForm hchecked.1)
  cases helements
  have hentries := Check.targetGroups_of_request hgroups hfound rfl
  obtain ⟨keys, hkeys⟩ := collected_of_collectGroups .nil hentries hcollected
  obtain ⟨repeated, hrepeated, hlength⟩ := trace_collectGroups hcollected
  exact ⟨entries, keys, hfound, hentries, hkeys, repeated, htrace.trans hrepeated, hlength⟩

/-! ## The default backend -/

/-- What a document gives for the default backend, and for its port. -/
def GivesBackend (document backend given : Json) : Prop :=
  ∃ ingress spec, document.member "ingress" = .ok ingress ∧ ingress.member "spec" = .ok spec ∧
    spec.member "backend" = .ok backend ∧ backend.member "servicePort" = .ok given

theorem backend_of_ingress {data spec backend given : Json} {ingress : Ingress}
    (h : Ingress.ofDocument data = .ok ingress) (hs : data.member "spec" = .ok spec)
    (hb : spec.member "backend" = .ok backend) (hp : backend.member "servicePort" = .ok given) :
    ∃ b, Backend.ofDocument backend = .ok b ∧ ingress.backend = some b := by
  have hgetD {value found : Json} {name : String} (h : value.member name = .ok found) :
      value.getD name .null = .ok found := by
    cases value with
    | obj members => rw [Json.getD_obj, Json.member_obj_eq_ok_iff.mp h]; rfl
    | _ => cases h
  rw [Ingress.ofDocument, bind_of_eq_ok (hgetD hs)] at h
  dsimp only at h
  rw [Json.orElse_of_isTruthy (Check.isTruthy_of_member hb), bind_of_eq_ok (hgetD hb)] at h
  obtain ⟨_, -, h⟩ := bind_eq_ok_iff.mp h
  obtain ⟨_, -, h⟩ := bind_eq_ok_iff.mp h
  rw [if_pos (Check.isTruthy_of_member hp)] at h
  obtain ⟨backend?, hbackend, h⟩ := bind_eq_ok_iff.mp h
  obtain ⟨_, -, h⟩ := bind_eq_ok_iff.mp h
  obtain ⟨_, -, h⟩ := bind_eq_ok_iff.mp h
  obtain ⟨b, hread, rfl⟩ := map_eq_ok_iff.mp hbackend
  cases h
  exact ⟨b, hread, rfl⟩

/-- The default backend of a loaded document. -/
theorem Loading.backend {document backend given : Json} {outcome : Outcome σ Request}
    {request : Request} (h : Loading s document outcome) (hr : outcome.result = .ok request)
    (hb : GivesBackend document backend given) :
    ∃ key port, Names backend key ∧ Backend.portOf given = .ok port ∧ key.port.Of port ∧
      given.Denotes key.port ∧ request.ingress.backend = some ⟨.str key.service, port⟩ := by
  obtain ⟨hc, _, ingress, _, _, _, hparts, -⟩ := h.parts hr
  obtain ⟨ingress', spec, hingress, hspec, hbackend, hgiven⟩ := hb
  cases hparts.ingress_member.symm.trans hingress
  obtain ⟨b, hb, hsome⟩ := backend_of_ingress hparts.ingress hspec hbackend hgiven
  simp only [Check.request, Check.all_eq_nil_iff, List.forall_mem_cons] at hc
  obtain ⟨-, -, -, hchecked, -⟩ := hc
  have hchecked := Check.check_of_member hchecked hingress
  simp only [Check.ingress, Check.all_eq_nil_iff, List.forall_mem_cons] at hchecked
  obtain ⟨-, -, -, -, -, hchecked, -⟩ := hchecked
  have hchecked := Check.check_of_member hchecked hspec
  simp only [Check.all_eq_nil_iff, List.forall_mem_cons] at hchecked
  have hchecked := Check.check_of_member hchecked.2.1 hbackend
  simp only [Check.backend, Check.all_eq_nil_iff, List.forall_mem_cons] at hchecked
  obtain ⟨-, -, hname, hport, -⟩ := hchecked
  obtain ⟨key, hkey⟩ := Backend.exists_names hname hport hb
  obtain ⟨hservice, hof⟩ := Backend.is_of_names hkey hb
  obtain ⟨given', hgiven', hdenotes⟩ := hkey.port
  cases hgiven.symm.trans hgiven'
  obtain ⟨_, hgiven', hb⟩ := bind_eq_ok_iff.mp hb
  cases hgiven.symm.trans hgiven'
  obtain ⟨port, hp, hb⟩ := bind_eq_ok_iff.mp hb
  obtain ⟨service, -, hb⟩ := bind_eq_ok_iff.mp hb
  cases hb
  dsimp only at hservice
  exact ⟨key, port, hkey, hp, hof, hdenotes, hservice ▸ hsome⟩

theorem Loading.typed {document : Json} {outcome : Outcome σ Request} {request : Request}
    (h : Loading s document outcome) (hr : outcome.result = .ok request) : request.Typed := by
  obtain ⟨hc, keyPrefix, instance?, rfl⟩ := h.of_ok hr
  exact typed_of_ofDocument hc
    (Prod.ext hr rfl : (ofDocument document keyPrefix instance?).ending s = (_, _))

end Request

/-- Only the text itself is displayed as the port that refers to an annotation. -/
theorem Json.display_eq_annotationPort_iff {value : Json} :
    value.display = Backend.annotationPort ↔ value = .str Backend.annotationPort := by
  constructor
  · intro h
    -- every other literal begins with another character
    have hfirst {c : Char} {more : List Char} (hc : value.display.toList = c :: more) :
        c = 'u' := by
      rw [h] at hc
      exact (List.cons.inj hc).1.symm
    have hnumber {s : String} (hs : ∃ c more, s.toList = c :: more ∧ startsNumber c = true)
        (he : value.display = s) : False := by
      obtain ⟨c, more, hc, hstarts⟩ := hs
      rw [← he] at hc
      rw [hfirst hc] at hstarts
      cases hstarts
    cases value with
    | null => exact absurd h (by decide)
    | bool b => cases b <;> exact absurd h (by decide)
    | int n =>
      refine (hnumber (s := Text.intText n) ?_ rfl).elim
      rw [Text.intText, String.toList_ofList]
      exact exists_intChars n
    | float x =>
      cases x with
      | finite negative significand exponent =>
        exact (hnumber (exists_jsonText (.finite negative significand exponent)) rfl).elim
      | infinite negative => cases negative <;> exact absurd h (by decide)
      | nan => exact absurd h (by decide)
    | str s => rw [← h, display_str]
    | arr elements =>
      have htext : (arr elements).display.toList =
          '[' :: (String.intercalate ", " (literals elements) ++ "]").toList := by
        rw [show (arr elements).display = (arr elements).literal from rfl, literal,
          String.append_assoc, String.toList_append]
        rfl
      exact absurd (hfirst htext) (by decide)
    | obj members =>
      have htext : (obj members).display.toList =
          '\x7b' :: (String.intercalate ", " (memberLiterals members) ++ "\x7d").toList := by
        rw [show (obj members).display = (obj members).literal from rfl, literal,
          String.append_assoc, String.toList_append]
        rfl
      exact absurd (hfirst htext) (by decide)
  · rintro rfl
    rfl

theorem Backend.refersToAction_iff {port : Json} :
    refersToAction port = true ↔ port = .str annotationPort := by
  rw [refersToAction, beq_iff_eq, Json.display_eq_annotationPort_iff]

/-- Only the name that refers to an annotation does. -/
theorem Backend.Is.refersToAction_iff {b : Backend} {key : ServicePort} (h : b.Is key) :
    refersToAction b.servicePort = true ↔ key.port = .name annotationPort := by
  rw [Backend.refersToAction_iff]
  have hport := h.port
  cases hkey : key.port with
  | number n =>
    rw [hkey] at hport
    refine iff_of_false (fun htext => ?_) nofun
    rw [htext] at hport
    cases hport
  | name s =>
    rw [hkey] at hport
    rw [show b.servicePort = .str s from hport, Json.str.injEq, PortKey.name.injEq]

theorem Check.isTruthy_of_text {value : Json} (h : Check.text value = []) :
    value.isTruthy = true := by
  obtain ⟨s, rfl⟩ := Check.of_text h
  simp only [Check.text, Check.all_eq_nil_iff, List.forall_mem_cons] at h
  have hempty := h.2.1
  rw [Check.nonEmpty, Document.shape_str] at hempty
  dsimp only at hempty
  split_ifs at hempty with hs
  · cases hempty
  · exact bne_iff_ne.mpr hs

/-- The arns of entries count as given. -/
theorem LastArn.isTruthy {entries : List Json} {key : ServicePort} {arn : Json}
    (h : LastArn entries key arn) (hc : ∀ entry ∈ entries, Check.targetGroup entry = []) :
    arn.isTruthy = true := by
  obtain ⟨before, entry, after, rfl, -, harn, -⟩ := h
  have hentry := hc entry (List.mem_append_right _ List.mem_cons_self)
  simp only [Check.targetGroup, Check.all_eq_nil_iff, List.forall_mem_cons] at hentry
  obtain ⟨-, -, -, -, hproperty, -⟩ := hentry
  exact Check.isTruthy_of_text (Check.check_of_member hproperty harn)

namespace Request

variable {σ : Type} {s : σ} {request : Request}

section

variable {b : Backend} {limits : Limits} (hb : request.ingress.backend = some b)
  (hport : ¬Backend.refersToAction b.servicePort = true)
  (hfits : ∀ n, b.servicePort = .int n → limits.exceededBy? n = none)

include hb hport hfits

end

end Request

end AlbListener

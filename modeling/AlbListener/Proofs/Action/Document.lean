import AlbListener.Proofs.Action.Settings

/-!
# Actions and their documents

`Managed` says which actions reading a document can give: an action that is expressed, with
parts as reading leaves them. Writing such an action and reading it again changes nothing, so
what a provider stores of it is the action itself.

Results:
* `readWith_of_ofDocument`: what the values in a document share, the parts of the action share that
  is read of it.
* `managed_of_ofDocument`: what is read is managed.
* `ReadWith.toApi`: what the parts share, the document that is written shares.
* `ofDocument_toApi`: the document of a managed action is read back as that action.
* `Managed.same_refl`: a managed action is the same as itself.
-/

namespace AlbListener

namespace Action

/-- An action that a document can describe. -/
inductive Managed : Action → Prop
  | forward {arn : Json} (ht : arn.isTruthy = true) (ha : arn.Distinct) : Managed (.forward arn)
  | fixedResponse (status : String) {contentType messageBody : Json}
      (hc : contentType.Distinct) (hm : messageBody.Distinct) :
      Managed (.fixedResponse (.str status) contentType messageBody)
  | redirect (port : String) {status protocol host path query : Json} (hs : status.Distinct)
      (hp : protocol.Distinct) (hh : host.Distinct) (ha : path.Distinct) (hq : query.Distinct) :
      Managed (.redirect status protocol (.str port) host path query)
  | authenticate (provider : Provider) {settings : List (String × Json)} {secret : Json}
      (h : KeptSettings settings) (hs : secret.Distinct) :
      Managed (.authenticate provider settings secret)

theorem Managed.isUnmanaged {a : Action} (h : a.Managed) : a.isUnmanaged = false := by
  cases h <;> rfl

/-! ## What is read -/

/-- An action as reading leaves it, with parts that have a property. -/
inductive ReadWith (P : Json → Prop) : Action → Prop
  | forward {arn : Json} (ht : arn.isTruthy = true) (ha : P arn) : ReadWith P (.forward arn)
  | fixedResponse (status : String) {contentType messageBody : Json} (hc : P contentType)
      (hm : P messageBody) : ReadWith P (.fixedResponse (.str status) contentType messageBody)
  | redirect (port : String) {status protocol host path query : Json} (hs : P status)
      (hp : P protocol) (hh : P host) (ha : P path) (hq : P query) :
      ReadWith P (.redirect status protocol (.str port) host path query)
  | authenticate (provider : Provider) {given : List (String × Json)} (hg : P (.obj given)) :
      ReadWith P (authenticateWith provider given .null)

/-- How a document of a type is read. -/
def readerOf : ActionType → Json → Except Fault Action
  | .forward => forwardOf
  | .fixedResponse => fixedResponseOf
  | .redirect => redirectOf
  | .authenticate provider => authenticateOf provider

theorem typeOf?_eq_some_iff {value : Json} {type : ActionType} :
    typeOf? value = some type ↔ value = .str type.name := by
  constructor
  · intro h
    cases value with
    | str s =>
      rw [typeOf?, ActionType.ofName?] at h
      split_ifs at h with hs hs hs hs hs <;> cases h <;> rw [hs] <;> rfl
    | _ => cases h
  · rintro rfl
    exact ActionType.ofName?_name type

theorem ofDocument_of_type {members : List (String × Json)} {type : ActionType}
    (h : Entries.get? members "Type" = some (.str type.name)) :
    ofDocument (.obj members) = readerOf type (.obj members) := by
  rw [ofDocument, Json.getD_obj, h, Option.getD_some, bind_of_eq_ok rfl]
  simp only [typeOf?_eq_some_iff.mpr rfl]
  cases type <;> rfl

/-- A document that is read has a type, and is read as that type is. -/
theorem readerOf_of_ofDocument {data : Json} {a : Action} (h : ofDocument data = .ok a) :
    ∃ type, readerOf type data = .ok a := by
  rw [ofDocument] at h
  obtain ⟨named, -, h⟩ := bind_eq_ok_iff.mp h
  split at h
  · exact ⟨.forward, h⟩
  · exact ⟨.fixedResponse, h⟩
  · exact ⟨.redirect, h⟩
  · exact ⟨.authenticate _, h⟩
  · cases h

section

variable {P : Json → Prop} (hP : Json.Hereditary P) {data : Json} {a : Action}

include hP

theorem readWith_of_forwardOf (hd : P data) (h : forwardOf data = .ok a) : a.ReadWith P := by
  unfold forwardOf at h
  obtain ⟨config, hconfig, h⟩ := bind_eq_ok_iff.mp h
  have hconfig := Json.orElse_of (hP.getD hd hP.null hconfig) hP.obj_nil
  obtain ⟨groups, hgroups, h⟩ := bind_eq_ok_iff.mp h
  have hgroups := Json.orElse_of (hP.getD hconfig hP.null hgroups) hP.arr_nil
  dsimp only at h
  obtain ⟨size, -, h⟩ := bind_eq_ok_iff.mp h
  split_ifs at h
  obtain ⟨top, htop, h⟩ := bind_eq_ok_iff.mp h
  -- the arn stands in the first group or at the top
  split_ifs at h
  · obtain ⟨group, hgroup, h⟩ := bind_eq_ok_iff.mp h
    obtain ⟨arn, harn, h⟩ := bind_eq_ok_iff.mp h
    split_ifs at h with ht
    cases h
    exact .forward ht (hP.getD (hP.first hgroups hgroup) hP.null harn)
  · rw [pure_bind] at h
    split_ifs at h with ht
    cases h
    exact .forward ht (hP.getD hd hP.null htop)

theorem readWith_of_fixedResponseOf (hd : P data) (h : fixedResponseOf data = .ok a) :
    a.ReadWith P := by
  unfold fixedResponseOf at h
  obtain ⟨config, hconfig, h⟩ := bind_eq_ok_iff.mp h
  have hconfig := Json.orElse_of (hP.getD hd hP.null hconfig) hP.obj_nil
  obtain ⟨known, -, h⟩ := bind_eq_ok_iff.mp h
  split_ifs at h
  obtain ⟨status, -, h⟩ := bind_eq_ok_iff.mp h
  obtain ⟨contentType, hc, h⟩ := bind_eq_ok_iff.mp h
  obtain ⟨messageBody, hm, h⟩ := bind_eq_ok_iff.mp h
  cases h
  exact .fixedResponse _ (hP.getD hconfig hP.null hc) (hP.getD hconfig hP.null hm)

theorem readWith_of_redirectOf (hd : P data) (h : redirectOf data = .ok a) : a.ReadWith P := by
  unfold redirectOf at h
  obtain ⟨config, hconfig, h⟩ := bind_eq_ok_iff.mp h
  have hconfig := Json.orElse_of (hP.getD hd hP.null hconfig) hP.obj_nil
  obtain ⟨known, -, h⟩ := bind_eq_ok_iff.mp h
  split_ifs at h
  obtain ⟨status, hs, h⟩ := bind_eq_ok_iff.mp h
  obtain ⟨protocol, hp, h⟩ := bind_eq_ok_iff.mp h
  obtain ⟨port, -, h⟩ := bind_eq_ok_iff.mp h
  obtain ⟨host, hh, h⟩ := bind_eq_ok_iff.mp h
  obtain ⟨path, ha, h⟩ := bind_eq_ok_iff.mp h
  obtain ⟨query, hq, h⟩ := bind_eq_ok_iff.mp h
  cases h
  exact .redirect _ (hP.member hconfig hs) (hP.getD hconfig (hP.str _) hp)
    (hP.getD hconfig (hP.str _) hh) (hP.getD hconfig (hP.str _) ha)
    (hP.getD hconfig (hP.str _) hq)

theorem readWith_of_authenticateOf {provider : Provider} (hd : P data)
    (h : authenticateOf provider data = .ok a) : a.ReadWith P := by
  unfold authenticateOf at h
  obtain ⟨known, -, h⟩ := bind_eq_ok_iff.mp h
  split_ifs at h
  obtain ⟨config, hconfig, h⟩ := bind_eq_ok_iff.mp h
  obtain ⟨given, hgiven, h⟩ := bind_eq_ok_iff.mp h
  cases h
  exact .authenticate provider (hP.toMembers (hP.member hd hconfig) hgiven)

/-- What is read from a document has parts with the property that the document has. -/
theorem readWith_of_ofDocument (hd : P data) (h : ofDocument data = .ok a) : a.ReadWith P := by
  obtain ⟨type, h⟩ := readerOf_of_ofDocument h
  cases type with
  | forward => exact readWith_of_forwardOf hP hd h
  | fixedResponse => exact readWith_of_fixedResponseOf hP hd h
  | redirect => exact readWith_of_redirectOf hP hd h
  | authenticate provider => exact readWith_of_authenticateOf hP hd h

/-- The secret that is kept of what is given. -/
theorem hereditary_secret {given : List (String × Json)} (h : P (.obj given)) :
    P ((Entries.get? (effectiveSettings given) secretName).getD .null) := by
  rw [effectiveSettings, Entries.get?_overlay _ _ _ (hP.obj_iff.mp h).1,
    show Entries.get? defaultSettings secretName = none by decide, Option.or_none]
  exact hP.value h _ hP.null

end

theorem managed_authenticateWith {given : List (String × Json)} {secret : Json}
    (provider : Provider) (hd : (Json.obj given).Distinct) (hs : secret.Distinct) :
    (authenticateWith provider given secret).Managed := by
  rw [authenticateWith_eq]
  refine .authenticate provider (keptSettings_of_given (Json.distinct_obj_iff.mp hd).2) ?_
  split_ifs
  · exact hereditary_secret Json.hereditary_distinct hd
  · exact hs

/-- Whatever is read from a document with distinct names is managed. -/
theorem managed_of_ofDocument {data : Json} {a : Action} (hd : data.Distinct)
    (h : ofDocument data = .ok a) : a.Managed := by
  cases readWith_of_ofDocument Json.hereditary_distinct hd h with
  | forward ht ha => exact .forward ht ha
  | fixedResponse status hc hm => exact .fixedResponse status hc hm
  | redirect port hs hp hh ha hq => exact .redirect port hs hp hh ha hq
  | authenticate provider hg => exact managed_authenticateWith provider hg Json.distinct_null

/-! ## What is written -/

theorem hereditary_optional {P : Json → Prop} {name : String} {value : Json} (h : P value) :
    ∀ member ∈ optional name value, P member.2 := by
  unfold optional
  split_ifs
  · simp
  · simpa using h

/-- What a provider call passes as settings. -/
theorem hereditary_settingsWithSecret {P : Json → Prop} (hP : Json.Hereditary P)
    (provider : Provider) {settings : List (String × Json)} {secret : Json}
    (hk : KeptSettings settings) (h : P (.obj settings)) (hs : P secret) :
    P (.obj (settingsWithSecret provider settings secret)) := by
  refine hP.obj_iff.mpr ⟨distinct_settingsWithSecret hk provider secret, ?_⟩
  have hsettings := (hP.obj_iff.mp h).2
  rw [settingsWithSecret_eq, List.forall_mem_append]
  refine ⟨hsettings, ?_⟩
  split_ifs
  · simpa using hs
  · have hflag : P (.bool true) := hP.plain rfl fun _ h => by cases h
    simpa using hflag
  · simp

/-- The document that is written of what was read has the property of the document that was
    read. -/
theorem ReadWith.toApi {P : Json → Prop} (hP : Json.Hereditary P) {a : Action}
    (h : a.ReadWith P) : P a.toApi := by
  have hpair {type name : String} {value : Json} (hn : "Type" ≠ name) (hv : P value) :
      P (.obj [("Type", .str type), (name, value)]) := by
    refine hP.obj_iff.mpr ⟨by simp [Entries.Distinct, Entries.names, hn], ?_⟩
    simpa using ⟨hP.str type, hv⟩
  cases h with
  | forward _ ha => exact hpair (by decide) ha
  | fixedResponse status hc hm =>
    refine hpair (by decide) (hP.obj_iff.mpr ⟨?_, ?_⟩)
    · unfold optional
      split_ifs <;> simp [Entries.Distinct, Entries.names]
    · exact List.forall_mem_cons.mpr
        ⟨hP.str status, List.forall_mem_append.mpr ⟨hereditary_optional hc, hereditary_optional hm⟩⟩
  | redirect port hs hp hh ha hq =>
    refine hpair (by decide) (hP.obj_iff.mpr ⟨by simp [Entries.Distinct, Entries.names], ?_⟩)
    simpa using ⟨hp, hP.str port, hh, ha, hq, hs⟩
  | authenticate provider hg =>
    rw [authenticateWith_eq, if_pos (show Json.null.isNull = true from rfl)]
    have hkept := keptSettings_of_given (Json.distinct_obj_iff.mp (hP.distinct hg)).2
    have hsettings := hereditary_settled hP (hereditary_openSettings hP (hP.obj_iff.mp hg).2)
    exact hpair (by cases provider <;> decide)
      (hereditary_settingsWithSecret hP provider hkept hsettings (hereditary_secret hP hg))

/-! ## Reading what was written -/

theorem ofDocument_toApi_forward {arn : Json} (h : arn.isTruthy = true) :
    ofDocument (toApi (.forward arn)) = .ok (.forward arn) := by
  rw [toApi, ofDocument_of_type rfl, readerOf]
  simp [forwardOf, Json.getD_obj, Entries.get?, Json.size, bind, Except.bind, pure, Except.pure, h]

theorem get?_optional_append {contentType messageBody : Json} :
    (Entries.get? (optional "ContentType" contentType ++ optional "MessageBody" messageBody)
        "ContentType").getD .null = contentType ∧
      (Entries.get? (optional "ContentType" contentType ++ optional "MessageBody" messageBody)
        "MessageBody").getD .null = messageBody := by
  cases contentType <;> cases messageBody <;> exact ⟨rfl, rfl⟩

theorem ofDocument_toApi_fixedResponse (status : String) (contentType messageBody : Json) :
    ofDocument (toApi (.fixedResponse (.str status) contentType messageBody)) =
      .ok (.fixedResponse (.str status) contentType messageBody) := by
  obtain ⟨hc, hm⟩ := @get?_optional_append contentType messageBody
  rw [toApi, ofDocument_of_type rfl, readerOf]
  simp [fixedResponseOf, Json.getD_obj, Json.mentions_obj, Entries.get?, Entries.has,
    Json.member, bind, Except.bind, pure, Except.pure, hc, hm]

theorem ofDocument_toApi_redirect (status protocol host path query : Json) (port : String) :
    ofDocument (toApi (.redirect status protocol (.str port) host path query)) =
      .ok (.redirect status protocol (.str port) host path query) := by
  rw [toApi, ofDocument_of_type rfl, readerOf]
  simp [redirectOf, Json.getD_obj, Json.mentions_obj, Entries.get?, Entries.has,
    Json.member, bind, Except.bind, pure, Except.pure]

theorem ofDocument_toApi_authenticate (provider : Provider) {settings : List (String × Json)}
    (h : KeptSettings settings) (secret : Json) :
    ofDocument (toApi (.authenticate provider settings secret)) =
      .ok (.authenticate provider settings secret) := by
  have hread := authenticateWith_settingsWithSecret h provider secret
  rw [toApi, ofDocument_of_type rfl, readerOf]
  cases provider <;>
    simp [authenticateOf, Json.mentions_obj, Provider.configName, Entries.get?, Entries.has,
      Json.member, Json.toMembers_obj, bind, Except.bind, pure, Except.pure, hread]

/-- A managed action is read back from its document. -/
theorem ofDocument_toApi {a : Action} (h : a.Managed) : ofDocument a.toApi = .ok a := by
  cases h with
  | forward ht _ => exact ofDocument_toApi_forward ht
  | fixedResponse status _ _ => exact ofDocument_toApi_fixedResponse status _ _
  | redirect port _ _ _ _ _ => exact ofDocument_toApi_redirect _ _ _ _ _ port
  | authenticate provider hk _ => exact ofDocument_toApi_authenticate provider hk _

/-- A managed action is what is read of some document. -/
theorem Managed.readWith {a : Action} (h : a.Managed) : a.ReadWith Json.Distinct := by
  cases h with
  | forward ht ha => exact .forward ht ha
  | fixedResponse status hc hm => exact .fixedResponse status hc hm
  | redirect port hs hp hh ha hq => exact .redirect port hs hp hh ha hq
  | @authenticate provider settings secret hk hs =>
    rw [← authenticateWith_settingsWithSecret hk provider secret]
    exact .authenticate provider
      (hereditary_settingsWithSecret Json.hereditary_distinct provider hk hk.distinct hs)

theorem Managed.distinct_toApi {a : Action} (h : a.Managed) : a.toApi.Distinct :=
  h.readWith.toApi Json.hereditary_distinct

/-- A managed action is the same as itself. -/
theorem Managed.same_refl {a : Action} (h : a.Managed) : a.same a = true := by
  cases h with
  | forward _ ha => exact Json.same_refl ha
  | fixedResponse status hc hm =>
    simp only [same, Json.same_refl (Json.distinct_str _), Json.same_refl hc, Json.same_refl hm,
      Bool.and_self]
  | redirect port hs hp hh ha hq =>
    simp only [same, Json.same_refl (Json.distinct_str _), Json.same_refl hs, Json.same_refl hp,
      Json.same_refl hh, Json.same_refl ha, Json.same_refl hq, Bool.and_self]
  | authenticate provider h _ =>
    simp only [same, beq_self_eq_true, Json.same_refl h.distinct, Bool.and_self]

theorem sameAll_refl {actions : List Action} (h : ∀ a ∈ actions, a.Managed) :
    sameAll actions actions = true := by
  induction actions with
  | nil => rfl
  | cons a rest ih =>
    obtain ⟨ha, hrest⟩ := List.forall_mem_cons.mp h
    rw [sameAll, ha.same_refl, ih hrest, Bool.and_self]

end Action

end AlbListener

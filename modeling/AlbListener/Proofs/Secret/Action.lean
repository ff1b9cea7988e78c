import AlbListener.Command.View
import AlbListener.Proofs.Action.Document
import AlbListener.Proofs.Json.RoundTrip
import AlbListener.Proofs.Json.Twin

/-!
# Actions with other client secrets

Twin actions are the same but for the client secret, which both of them have. They are what is read
of twin documents, and their documents are twins again, also where a live action cannot be expressed
and only its document is kept. Neither comparing actions nor showing them tells twins apart.

Results:
* `ofDocument_twin`, `ofObserved_twin`: twin documents are read alike.
* `LiveTwin.toApi`: twin actions have twin documents.
* `LiveTwin.same`: what is the same as an action is the same as its twin.
* `LiveTwin.actionLine`: twins are shown on the same line.
-/

namespace AlbListener

open Entries (get? names Distinct)

namespace Action

/-! ## Twins -/

/-- Two client secrets, both of which are texts. -/
def SecretTwin (secret secret' : Json) : Prop := ∃ s s', secret = .str s ∧ secret' = .str s'

/-- Settings that are the same but for the client secret. -/
abbrev ConfigTwin : Json → Json → Prop := Json.TwinAt (· = secretName) SecretTwin

/-- The names under which an action document holds the settings of a provider. -/
def HoldsSettings (name : String) : Prop := ∃ provider : Provider, name = provider.configName

/-- Action documents that are the same but for client secrets. -/
abbrev DocumentTwin : Json → Json → Prop := Json.TwinAt HoldsSettings ConfigTwin

/-- Actions that are the same but for the client secret. -/
inductive Twin : Action → Action → Prop
  | refl (a : Action) : Twin a a
  | authenticate (provider : Provider) {settings : List (String × Json)} (hd : Distinct settings)
      (hs : secretName ∉ names settings) (s s' : String) :
      Twin (.authenticate provider settings (.str s)) (.authenticate provider settings (.str s'))

/-- Live actions that are the same but for client secrets. One that cannot be expressed holds the
    secret in its document. -/
inductive LiveTwin : Action → Action → Prop
  | expressed {a a' : Action} (h : Twin a a') : LiveTwin a a'
  | unmanaged (type : String) {document document' : Json} (h : DocumentTwin document document') :
      LiveTwin (.unmanaged type document.render) (.unmanaged type document'.render)

theorem LiveTwin.refl (a : Action) : LiveTwin a a := .expressed (.refl a)

theorem not_holdsSettings {name : String} (ho : name ≠ "AuthenticateOidcConfig")
    (hc : name ≠ "AuthenticateCognitoConfig") : ¬ HoldsSettings name := by
  rintro ⟨_ | _, rfl⟩
  · exact ho rfl
  · exact hc rfl

variable {data data' : Json} {a a' : Action}

/-! ## Reading documents -/

/-- Everything but the secret is kept of settings that are the same but for it. -/
theorem authenticateWith_twin (provider : Provider) {given given' : List (String × Json)}
    (h : MembersTwin (· = secretName) SecretTwin given given') :
    Twin (authenticateWith provider given .null) (authenticateWith provider given' .null) := by
  have heffective : MembersTwin (· = secretName) SecretTwin (effectiveSettings given)
      (effectiveSettings given') := .overlay (.refl _) h
  have hopen : openSettings given = openSettings given' := by
    rw [openSettings, openSettings, heffective.erase_eq fun _ => id]
  have hsecret := heffective.get? secretName
  rw [authenticateWith_eq, authenticateWith_eq, hopen]
  generalize get? (effectiveSettings given) secretName = secret,
    get? (effectiveSettings given') secretName = secret' at hsecret
  cases hsecret with
  | none => exact .refl _
  | some hv =>
    rcases hv with rfl | ⟨-, s, s', rfl, rfl⟩
    · exact .refl _
    · exact .authenticate provider
        (Json.distinct_sortMembers (distinct_settledMembers (distinct_openSettings _)))
        (fun hm => secretName_not_mem_openSettings _ (mem_names_sorted.mp hm)) s s'

theorem authenticateOf_twin (h : DocumentTwin data data') (provider : Provider) :
    Alike Eq Twin (authenticateOf provider data) (authenticateOf provider data') := by
  unfold authenticateOf
  rw [h.mentions]
  refine .bind_same _ fun known => ?_
  split_ifs
  · exact .error rfl
  · exact (h.member .refl _).bind fun _ _ hconfig => hconfig.toMembers.bind fun _ _ hgiven =>
      .ok (authenticateWith_twin provider hgiven)

/-- Twin documents describe twin actions, or are refused for the same reason. -/
theorem ofDocument_twin (h : DocumentTwin data data') :
    Alike Eq Twin (ofDocument data) (ofDocument data') := by
  have hsame {step step' : Except Fault Action} (he : step = step') : Alike Eq Twin step step' :=
    he ▸ .refl (fun _ => rfl) .refl step
  unfold ofDocument
  rw [h.getD_eq (not_holdsSettings (by decide) (by decide))]
  refine .bind_same _ fun type => ?_
  split
  · refine hsame ?_
    unfold forwardOf
    simp only [h.getD_eq (not_holdsSettings (show "ForwardConfig" ≠ _ by decide) (by decide)),
      h.getD_eq (not_holdsSettings (show "TargetGroupArn" ≠ _ by decide) (by decide))]
  · refine hsame ?_
    unfold fixedResponseOf
    rw [h.getD_eq (not_holdsSettings (by decide) (by decide))]
  · refine hsame ?_
    unfold redirectOf
    rw [h.getD_eq (not_holdsSettings (by decide) (by decide))]
  · exact authenticateOf_twin h _
  · exact .error rfl

theorem SecretTwin.sorted {secret secret' : Json} (h : SecretTwin secret secret') :
    SecretTwin secret.sorted secret'.sorted := by
  obtain ⟨s, s', rfl, rfl⟩ := h
  exact ⟨s, s', rfl, rfl⟩

/-- Twin documents that are kept as they are. -/
theorem unmanagedOf_twin (h : DocumentTwin data data') :
    Alike Eq LiveTwin (unmanagedOf data) (unmanagedOf data') := by
  cases h with
  | refl => exact .refl (fun _ => rfl) .refl _
  | obj h =>
    have hplace := h.erase "Order"
    unfold unmanagedOf
    dsimp only
    rw [hplace.get?_eq (not_holdsSettings (by decide) (by decide))]
    exact .ok (.unmanaged _ ((Json.TwinAt.obj hplace).sorted fun _ _ h => h.sorted fun _ _ =>
      SecretTwin.sorted))

/-- Twin documents on live listeners are read alike. -/
theorem ofObserved_twin (h : DocumentTwin data data') :
    Alike Eq LiveTwin (ofObserved data) (ofObserved data') := by
  have hread := ofDocument_twin h
  unfold ofObserved
  generalize ofDocument data = read, ofDocument data' = read' at hread
  cases hread with
  | ok h => exact .ok (.expressed h)
  | error he =>
    subst he
    split
    · exact unmanagedOf_twin h
    · exact .error rfl

/-! ## Documents of actions -/

theorem SecretTwin.reread {secret secret' : Json} (h : SecretTwin secret secret') :
    SecretTwin secret.reread secret'.reread := by
  obtain ⟨s, s', rfl, rfl⟩ := h
  exact ⟨s, s', rfl, rfl⟩

theorem toApi_unmanaged (type : String) (document : Json) :
    toApi (.unmanaged type document.render) = document.reread := by
  rw [toApi, Json.read_render_eq]

/-- Twin actions have twin documents. -/
theorem LiveTwin.toApi (h : LiveTwin a a') : DocumentTwin a.toApi a'.toApi := by
  cases h with
  | expressed h =>
    cases h with
    | refl => exact .refl _
    | @authenticate provider settings hd hs s s' =>
      have hsecret : MembersTwin (· = secretName) SecretTwin [(secretName, .str s)]
          [(secretName, .str s')] := .cons ⟨rfl, .inr ⟨rfl, s, s', rfl, rfl⟩⟩ .nil
      have hsettings := (MembersTwin.refl settings).append hsecret
      exact .obj (.cons ⟨rfl, .inl rfl⟩ (.cons ⟨rfl, .inr ⟨⟨provider, rfl⟩, .obj hsettings⟩⟩ .nil))
  | unmanaged type h =>
    rw [toApi_unmanaged, toApi_unmanaged]
    exact h.reread fun _ _ h => h.reread fun _ _ => SecretTwin.reread

/-! ## Comparison -/

/-- Whether a live action is the same as one that is wanted does not depend on client secrets. -/
theorem LiveTwin.same {target target' : Action} (h : LiveTwin a a') (ht : Twin target target')
    (hm : target.isUnmanaged = false) : a.same target = a'.same target' := by
  cases h with
  | expressed h =>
    cases h with
    | refl =>
      cases ht with
      | refl => rfl
      | authenticate => cases a <;> rfl
    | authenticate =>
      cases ht with
      | refl => cases target <;> rfl
      | authenticate => rfl
  | unmanaged =>
    -- an action that is wanted can be expressed, and so is the same as neither
    cases ht with
    | refl => cases target <;> first | rfl | cases hm
    | authenticate => rfl

theorem sameAll_of_twin {actions actions' targets targets' : List Action}
    (h : List.Forall₂ LiveTwin actions actions') (ht : List.Forall₂ Twin targets targets')
    (hm : ∀ target ∈ targets, target.isUnmanaged = false) :
    sameAll actions targets = sameAll actions' targets' := by
  induction h generalizing targets targets' with
  | nil => cases ht <;> rfl
  | cons ha _ ih =>
    cases ht with
    | nil => rfl
    | cons hta hts =>
      obtain ⟨hhead, htail⟩ := List.forall_mem_cons.mp hm
      rw [sameAll, sameAll, ha.same hta hhead, ih hts htail]

/-! ## Lines -/

/-- A secret that is masked cannot be told from another one. -/
theorem masked_of_twin {config config' : Json} (h : ConfigTwin config config')
    (hd : ∀ members, config = .obj members → Distinct members) :
    View.masked config = View.masked config' := by
  cases h with
  | refl => rfl
  | @obj members members' h =>
    refine congrArg Json.obj ?_
    rw [View.maskSecret, View.maskSecret, ← h.has]
    split_ifs with hhas
    · exact h.put_eq (hd members rfl) (fun _ => id) _
    · refine h.eq_of_not_mem fun name hm hn => hhas ?_
      subst hn
      rw [Entries.has, Option.isSome_iff_ne_none, Ne, Entries.get?_eq_none_iff, not_not]
      exact hm

theorem actionLine_of_documents (h : DocumentTwin a.toApi a'.toApi)
    (hd : ∀ members, a.toApi = .obj members → ∀ member ∈ members, ∀ config,
      member.2 = .obj config → Distinct config) :
    View.actionLine a = View.actionLine a' := by
  unfold View.actionLine
  generalize a.toApi = document, a'.toApi = document' at h hd
  cases h with
  | refl => rfl
  | @obj members members' h =>
    have hdetail := (h.erase "Type").map_eq fun member hm _ hv =>
      masked_of_twin hv (hd members rfl member (Entries.mem_of_mem_erase hm))
    dsimp only
    rw [h.get?_eq (not_holdsSettings (by decide) (by decide)), hdetail]

/-- Twins are shown on the same line. -/
theorem LiveTwin.actionLine (h : LiveTwin a a') : View.actionLine a = View.actionLine a' := by
  have hdocuments := h.toApi
  cases h with
  | expressed h =>
    cases h with
    | refl => rfl
    | authenticate provider hd hs s s' =>
      refine actionLine_of_documents hdocuments ?_
      rintro _ ⟨⟩ member hm config hconfig
      rcases List.mem_pair.mp hm with rfl | rfl
      · cases hconfig
      · cases hconfig
        exact distinct_append_setting hd hs _
  | @unmanaged type document _ h =>
    have hread : ((Action.unmanaged type document.render).toApi).Distinct :=
      toApi_unmanaged type document ▸ Json.read_distinct (Json.read_render_eq document)
    refine actionLine_of_documents hdocuments fun members hmembers member hm config hconfig => ?_
    rw [hmembers] at hread
    have hmember := (Json.distinct_obj_iff.mp hread).2 member hm
    rw [hconfig] at hmember
    exact (Json.distinct_obj_iff.mp hmember).1

/-- Twins are shown on the same lines. -/
theorem actionLines_of_twin {actions actions' : List Action}
    (h : List.Forall₂ LiveTwin actions actions') :
    View.actionLines actions = View.actionLines actions' := by
  rw [View.actionLines, View.actionLines, mapM_eq_of_related h fun _ _ => LiveTwin.actionLine]

end Action

end AlbListener

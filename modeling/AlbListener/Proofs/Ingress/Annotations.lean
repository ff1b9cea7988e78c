import AlbListener.Proofs.Action.Document
import AlbListener.Proofs.Json.RoundTrip
import AlbListener.Request.Build

/-!
# Actions in annotations

An annotation defines an action by its document. Whatever action was read of a document without
doubles, its own document can be written into an annotation on one line, with any blanks around it:
the action of the service is then that action again, settings and client secret included, unless
its document is too large for the reader (`Action.Within`).

Results:
* `parseAction_render`: the text of the document of an action is read back as the action.
* `action_of_written`: an action that is written into an annotation is the action of the service.
-/

namespace AlbListener

namespace Action

/-- The document of an action is an object. -/
theorem exists_toApi {a : Action} (h : a.Managed) : ∃ members, a.toApi = .obj members := by
  cases h <;> exact ⟨_, rfl⟩

variable {document : Json} {a : Action} {limits : Limits}

/-- An action whose document and settings do not exceed limits. -/
structure Within (limits : Limits) (a : Action) : Prop where
  document : a.toApi.fits limits = true
  settings : ∀ depth ∈ limits.settings?, a.depth ≤ depth

/-- Without limits this is every action. -/
theorem within_unlimited (a : Action) : a.Within .unlimited :=
  ⟨Json.fits_unlimited _, nofun⟩

/-- What is written of an action that was read of a document without doubles is read back. -/
theorem readWithin_render_toApi (hd : document.Distinct) (hf : document.Floatless)
    (h : ofDocument document = .ok a) (hw : a.Within limits) :
    Json.readWithin limits a.toApi.render = .ok a.toApi := by
  have hread := readWith_of_ofDocument Json.hereditary_floatless ⟨hd, hf⟩ h
  obtain ⟨hdistinct, hfloatless⟩ := hread.toApi Json.hereditary_floatless
  exact Json.readWithin_render hw.document hfloatless hdistinct

end Action

namespace Annotations

/-- A text that is read has a content. -/
theorem content?_of_read {s : String} {document : Json}
    (h : Json.read (Text.strip s) = .ok document) : content? s = some (Text.strip s) := by
  have hne : Text.strip s ≠ "" := by
    intro he
    rw [he] at h
    cases h
  rw [content?, if_neg hne]

variable {document : Json} {a : Action} {limits : Limits}

theorem parseAction_render (hd : document.Distinct) (hf : document.Floatless)
    (h : Action.ofDocument document = .ok a) (hw : a.Within limits) (service : Json) :
    parseAction service a.toApi.render limits = .ok a := by
  have hmanaged := Action.managed_of_ofDocument hd h
  have hread := Action.readWithin_render_toApi hd hf h hw
  have hback := Action.ofDocument_toApi hmanaged
  obtain ⟨members, hmembers⟩ := Action.exists_toApi hmanaged
  rw [hmembers] at hread hback ⊢
  rw [parseAction, hread]
  simp only [hback]
  exact checkDepth_eq_ok_iff.mpr ⟨rfl, hw.settings⟩

/-- The text of the document of an action is what is left of it between blanks. -/
theorem content?_render (hd : document.Distinct) (hf : document.Floatless)
    (h : Action.ofDocument document = .ok a) {before after : String}
    (hb : ∀ c ∈ before.toList, Text.isBlank c = true)
    (ha : ∀ c ∈ after.toList, Text.isBlank c = true) :
    content? (before ++ a.toApi.render ++ after) = some a.toApi.render := by
  obtain ⟨members, hmembers⟩ := Action.exists_toApi (Action.managed_of_ofDocument hd h)
  have hstrip : Text.strip (before ++ a.toApi.render ++ after) = a.toApi.render := by
    rw [Text.strip_append hb ha, hmembers, Json.strip_render_obj]
  have hread := Action.readWithin_render_toApi hd hf h a.within_unlimited
  rw [← hstrip] at hread
  rw [content?_of_read hread, hstrip]

/-- An action that is written into an annotation is the action of the service, whatever blanks
    stand around it and whatever else is annotated. It is all that a backend that refers to it
    resolves to, whatever target groups there are. -/
theorem action_of_written (hd : document.Distinct) (hf : document.Floatless)
    (h : Action.ofDocument document = .ok a) (hw : a.Within limits) {annotations : Annotations}
    {service before after : String} (hs : service ≠ notFoundService)
    (hb : ∀ c ∈ before.toList, Text.isBlank c = true)
    (ha : ∀ c ∈ after.toList, Text.isBlank c = true)
    (hv : Entries.get? annotations.values (annotations.key ("actions." ++ service)) =
      some (.str (before ++ a.toApi.render ++ after))) :
    annotations.action (.str service) limits = .ok a ∧ a.same a = true ∧
      ∀ groups : TargetGroups, Request.resolveActions
        (some ⟨.str service, .str Backend.annotationPort⟩) annotations groups limits =
          .ok [a] := by
  have hbuiltin : ¬(Json.str service).equals (.str notFoundService) = true :=
    mt Json.equals_str_iff.mp hs
  have hlookup : annotations.lookup ("actions." ++ service) = .ok (some a.toApi.render) := by
    rw [lookup, hv]
    exact congrArg Except.ok (content?_render hd hf h hb ha)
  have haction : annotations.action (.str service) limits = .ok a := by
    rw [action, if_neg hbuiltin, Json.display_str, hlookup]
    exact parseAction_render hd hf h hw _
  refine ⟨haction, (Action.managed_of_ofDocument hd h).same_refl, fun groups => ?_⟩
  rw [Request.resolveActions_of_action rfl rfl, haction]
  rfl

/-! ## A login -/

/-- Settings of a login, with a parameter further inside and a secret. -/
def loginSettings : List (String × Json) :=
  [("Issuer", .str "https://login.example/grüße"),
    ("AuthenticationRequestExtraParams", .obj [("prompt", .str "\"login\""), ("max", .int (-1))]),
    (Action.secretName, .str "geheim")]

/-- The document of a login with these settings. -/
def loginDocument : Json :=
  .obj [("Type", .str "authenticate-oidc"), (Provider.oidc.configName, .obj loginSettings)]

/-- The action that is read of it. -/
def login : Action := Action.authenticateWith .oidc loginSettings .null

/-- That action between blanks, one of them an ideographic space. -/
def loginAnnotations : Annotations where
  keyPrefix := "team"
  values := [("team/actions.login", .str ("\n\t" ++ login.toApi.render ++ "\u3000"))]

theorem within_login : login.Within .standard := ⟨by decide +kernel, by decide⟩

theorem action_of_written_login :
    loginAnnotations.action (.str "login") = .ok login ∧ login.same login = true ∧
      ∀ groups : TargetGroups, Request.resolveActions
        (some ⟨.str "login", .str Backend.annotationPort⟩) loginAnnotations groups =
          .ok [login] := by
  have hd : loginDocument.Distinct := by
    simp [loginDocument, loginSettings, Json.distinct_obj_iff, Entries.Distinct, Entries.names,
      Json.distinct_str, Json.distinct_int, Provider.configName, Action.secretName]
  have hf : loginDocument.Floatless := by
    simp [loginDocument, loginSettings, Json.floatless_obj_iff, Json.floatless_str,
      Json.floatless_int]
  have hread : Action.ofDocument loginDocument = .ok login := rfl
  have hb : ∀ c ∈ "\n\t".toList, Text.isBlank c = true := by simp [Text.isBlank]
  have ha : ∀ c ∈ "\u3000".toList, Text.isBlank c = true := by simp [Text.isBlank]
  exact action_of_written hd hf hread within_login (by decide) hb ha rfl

end Annotations

end AlbListener

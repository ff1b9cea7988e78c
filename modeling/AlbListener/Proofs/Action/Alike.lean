import AlbListener.Proofs.Action.Document
import AlbListener.Proofs.Action.Shape
import AlbListener.Proofs.Json.Reordered

/-!
# Action documents that are read alike

Two action documents are read alike if what is read of each member is alike (`ReadAlike`): both are
accepted and describe related actions, both are refused, or both cannot be taken apart. How the
actions are related is left open, and so is how values that only count as texts, and the settings of
authenticate actions, have to agree for that.

Results:
* `forwardOf_alike`, `fixedResponseOf_alike`, `redirectOf_alike`, `authenticateOf_alike`: each type
  of action.
* `ofDocument_alike`: documents that are read alike.
* `readAlike_of_reordered`: documents whose members are reordered are read alike.
-/

namespace AlbListener.Action

open Entries (get?)
open Json (Reordered given)

/-- Failures of which both or none say that a value is not allowed. -/
def SameSort (f f' : Fault) : Prop := f.isInvalid = f'.isInvalid

/-! ## Members -/

/-- Configs of fixed responses that are read alike. -/
structure FixedResponseAlike (V : Json → Json → Prop) (config config' : Json) : Prop where
  mentions : config.mentions "StatusCode" = config'.mentions "StatusCode"
  status : Alike Eq V (config.member "StatusCode") (config'.member "StatusCode")
  contentType : Alike Eq Reordered (config.getD "ContentType" .null) (config'.getD "ContentType" .null)
  messageBody : Alike Eq Reordered (config.getD "MessageBody" .null) (config'.getD "MessageBody" .null)

/-- Configs of redirects that are read alike. -/
structure RedirectAlike (V : Json → Json → Prop) (config config' : Json) : Prop where
  mentions : config.mentions "StatusCode" = config'.mentions "StatusCode"
  status : Alike Eq Reordered (config.member "StatusCode") (config'.member "StatusCode")
  protocol : Alike Eq Reordered (config.getD "Protocol" keepProtocol)
    (config'.getD "Protocol" keepProtocol)
  port : Alike Eq V (config.getD "Port" keepPort) (config'.getD "Port" keepPort)
  host : Alike Eq Reordered (config.getD "Host" keepHost) (config'.getD "Host" keepHost)
  path : Alike Eq Reordered (config.getD "Path" keepPath) (config'.getD "Path" keepPath)
  query : Alike Eq Reordered (config.getD "Query" keepQuery) (config'.getD "Query" keepQuery)

/-- The config of an action as it is read: an empty object if none is given. -/
def configOf (members : List (String × Json)) (name : String) : Json :=
  (given members name).orElse (.obj [])

/-- Members of action documents that are read alike. Values that only count as texts agree as `V`
    says, and the settings of authenticate actions as `S` does. -/
structure ReadAlike (V : Json → Json → Prop) (S : Provider → Json → Json → Prop)
    (members members' : List (String × Json)) : Prop where
  type : Reordered (given members "Type") (given members' "Type")
  targetGroupArn : Reordered (given members "TargetGroupArn") (given members' "TargetGroupArn")
  forward : Reordered (given members "ForwardConfig") (given members' "ForwardConfig")
  fixedResponse : FixedResponseAlike V (configOf members "FixedResponseConfig")
    (configOf members' "FixedResponseConfig")
  redirect : RedirectAlike V (configOf members "RedirectConfig") (configOf members' "RedirectConfig")
  authenticate : ∀ provider : Provider, Option.Rel (S provider) (get? members provider.configName)
    (get? members' provider.configName)

/-- How actions are related whose documents are read alike. -/
structure Relates (V : Json → Json → Prop) (S : Provider → Json → Json → Prop)
    (R : Action → Action → Prop) : Prop where
  forward : ∀ {arn arn'}, Reordered arn arn' → R (.forward arn) (.forward arn')
  fixedResponse : ∀ {status status' contentType contentType' messageBody messageBody'},
    V status status' → Reordered contentType contentType' → Reordered messageBody messageBody' →
    R (.fixedResponse (.str status.display) contentType messageBody)
      (.fixedResponse (.str status'.display) contentType' messageBody')
  redirect : ∀ {status status' protocol protocol' port port' host host' path path' query query'},
    Reordered status status' → Reordered protocol protocol' → V port port' → Reordered host host' →
    Reordered path path' → Reordered query query' →
    R (.redirect status protocol (.str port.display) host path query)
      (.redirect status' protocol' (.str port'.display) host' path' query')
  authenticate : ∀ {provider config config'}, S provider config config' →
    Alike Eq (fun settings settings' => R (authenticateWith provider settings .null)
      (authenticateWith provider settings' .null)) config.toMembers config'.toMembers

/-! ## Documents -/

variable {V : Json → Json → Prop} {S : Provider → Json → Json → Prop} {R : Action → Action → Prop}
  {members members' : List (String × Json)}

theorem getD_null (members : List (String × Json)) (name : String) :
    (Json.obj members).getD name .null = .ok (given members name) := Json.getD_obj members name .null

theorem forwardOf_alike (h : ReadAlike V S members members') (hR : Relates V S R) :
    Alike Eq R (forwardOf (.obj members)) (forwardOf (.obj members')) := by
  have hfinish {arn arn' : Json} (harn : Reordered arn arn') : Alike Eq R
      (if arn.isTruthy then .ok (.forward arn) else .error (Fault.invalid .noTargetGroup))
      (if arn'.isTruthy then .ok (.forward arn') else .error (Fault.invalid .noTargetGroup)) := by
    rw [harn.isTruthy]
    split_ifs
    · exact .ok (hR.forward harn)
    · exact .error rfl
  unfold forwardOf
  rw [bind_of_eq_ok (getD_null _ "ForwardConfig"), bind_of_eq_ok (getD_null _ "ForwardConfig")]
  have hconfig := h.forward.orElse (.refl Json.distinct_obj_nil)
  refine (hconfig.getD (.refl Json.distinct_null) "TargetGroups").bind fun found found' hfound => ?_
  have hgroups := hfound.orElse (.refl Json.distinct_arr_nil)
  generalize found.orElse (.arr []) = groups, found'.orElse (.arr []) = groups' at hgroups
  dsimp only
  rw [hgroups.size]
  refine (Alike.refl (R := Eq) (fun _ => rfl) (fun _ => rfl) groups'.size).bind fun size _ hsize => ?_
  subst hsize
  split_ifs
  · exact .error rfl
  · -- the arn stands in the first group or at the top, on both sides
    rw [bind_of_eq_ok (getD_null _ "TargetGroupArn"), bind_of_eq_ok (getD_null _ "TargetGroupArn"),
      h.targetGroupArn.isTruthy, hgroups.isTruthy]
    split_ifs
    · exact hgroups.first.bind fun _ _ hgroup =>
        (hgroup.getD (.refl Json.distinct_null) _).bind fun _ _ harn => hfinish harn
    · exact hfinish h.targetGroupArn

theorem fixedResponseOf_alike (h : ReadAlike V S members members') (hR : Relates V S R) :
    Alike Eq R (fixedResponseOf (.obj members)) (fixedResponseOf (.obj members')) := by
  obtain ⟨hmentions, hstatus, hcontentType, hmessageBody⟩ := h.fixedResponse
  unfold fixedResponseOf
  rw [bind_of_eq_ok (getD_null _ _), bind_of_eq_ok (getD_null _ _)]
  simp only [configOf] at hmentions hstatus hcontentType hmessageBody
  simp only [hmentions]
  refine (Alike.refl (R := Eq) (fun _ => rfl) (fun _ => rfl) _).bind fun known _ hknown => ?_
  subst hknown
  split_ifs
  · exact .error rfl
  · exact hstatus.bind fun _ _ hs => hcontentType.bind fun _ _ hc => hmessageBody.bind fun _ _ hm =>
      .ok (hR.fixedResponse hs hc hm)

theorem redirectOf_alike (h : ReadAlike V S members members') (hR : Relates V S R) :
    Alike Eq R (redirectOf (.obj members)) (redirectOf (.obj members')) := by
  obtain ⟨hmentions, hstatus, hprotocol, hport, hhost, hpath, hquery⟩ := h.redirect
  unfold redirectOf
  rw [bind_of_eq_ok (getD_null _ _), bind_of_eq_ok (getD_null _ _)]
  simp only [configOf] at hmentions hstatus hprotocol hport hhost hpath hquery
  simp only [hmentions]
  refine (Alike.refl (R := Eq) (fun _ => rfl) (fun _ => rfl) _).bind fun known _ hknown => ?_
  subst hknown
  split_ifs
  · exact .error rfl
  · exact hstatus.bind fun _ _ hs => hprotocol.bind fun _ _ hp => hport.bind fun _ _ hn =>
      hhost.bind fun _ _ hh => hpath.bind fun _ _ ha => hquery.bind fun _ _ hq =>
      .ok (hR.redirect hs hp hn hh ha hq)

theorem authenticateOf_alike (h : ReadAlike V S members members') (hR : Relates V S R)
    (provider : Provider) : Alike Eq R (authenticateOf provider (.obj members))
      (authenticateOf provider (.obj members')) := by
  have hconfig := h.authenticate provider
  unfold authenticateOf
  rw [Json.mentions_obj, Json.mentions_obj, Entries.has, Entries.has, Json.member, Json.member]
  generalize get? members provider.configName = x, get? members' provider.configName = y at hconfig
  cases hconfig with
  | none => exact .error rfl
  | some hconfig => exact (hR.authenticate hconfig).bind fun _ _ hsettings => .ok hsettings

/-- Documents that are read alike are accepted alike. -/
theorem ofDocument_alike (h : ReadAlike V S members members') (hR : Relates V S R) :
    Alike SameSort R (ofDocument (.obj members)) (ofDocument (.obj members')) := by
  have hsort {step step' : Except Fault Action} (h : Alike Eq R step step') :
      Alike SameSort R step step' := h.mono (fun _ _ he => by rw [he]; rfl) fun _ _ => id
  unfold ofDocument
  rw [bind_of_eq_ok (getD_null _ _), bind_of_eq_ok (getD_null _ _)]
  have htype : typeOf? (given members "Type") = typeOf? (given members' "Type") := by
    have hkind := h.type.kind
    rcases h.type.cases with ⟨he, -⟩ | ⟨xs, ys, hx, hy, -⟩ | ⟨xs, ys, hx, hy, -⟩
    · rw [he]
    · rw [hx, hy]; rfl
    · rw [hx, hy]; rfl
  rw [htype]
  split
  · exact hsort (forwardOf_alike h hR)
  · exact hsort (fixedResponseOf_alike h hR)
  · exact hsort (redirectOf_alike h hR)
  · exact hsort (authenticateOf_alike h hR _)
  · exact .error rfl

/-! ## Reordered documents -/

/-- Documents of which all members but their place are reordered are read alike. -/
theorem readAlike_of_reordered {S : Provider → Json → Json → Prop}
    (h : ∀ name ≠ "Order", Option.Rel Reordered (get? members name) (get? members' name))
    (hS : ∀ provider config config', Reordered config config' → S provider config config') :
    ReadAlike Reordered S members members' := by
  have hgiven {name : String} (hname : name ≠ "Order") :
      Reordered (given members name) (given members' name) :=
    Json.Reordered.rel_getD (h name hname) (.refl Json.distinct_null)
  have hconfig (name : String) (hname : name ≠ "Order") :
      Reordered (configOf members name) (configOf members' name) :=
    (hgiven hname).orElse (.refl Json.distinct_obj_nil)
  have hfixed := hconfig "FixedResponseConfig" (by decide)
  have hredirect := hconfig "RedirectConfig" (by decide)
  have hnull : Reordered .null .null := .refl Json.distinct_null
  have htext (s : String) : Reordered (.str s) (.str s) := .refl (Json.distinct_str s)
  exact {
    type := hgiven (by decide)
    targetGroupArn := hgiven (by decide)
    forward := hgiven (by decide)
    fixedResponse := ⟨hfixed.mentions _, hfixed.member _, hfixed.getD hnull _, hfixed.getD hnull _⟩
    redirect := ⟨hredirect.mentions _, hredirect.member _, hredirect.getD (htext _) _,
      hredirect.getD (htext _) _, hredirect.getD (htext _) _, hredirect.getD (htext _) _,
      hredirect.getD (htext _) _⟩
    authenticate := fun provider => by
      have hname := h provider.configName (by cases provider <;> decide)
      generalize get? members provider.configName = x,
        get? members' provider.configName = y at hname
      cases hname with
      | none => exact .none
      | some h => exact .some (hS _ _ _ h) }

end AlbListener.Action

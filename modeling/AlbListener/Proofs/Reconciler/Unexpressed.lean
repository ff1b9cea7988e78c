import AlbListener.Proofs.Reconciler.Calls

/-!
# Live actions that cannot be expressed

Whatever a request asks for can be expressed. A live listener that has an action which cannot be
expressed is therefore never as it should be, wherever among its actions that action stands: its
default actions have drifted, and a pass modifies it. Only certificates that cannot be compared keep
a pass from finding out, and then it fails.

Results:
* `exists_unmanaged_of_ofDocument`: an action that is refused is kept.
* `sameAll_eq_false_of_unmanaged`: actions with one that cannot be expressed are not what is asked
  for.
* `modifies_unexpressed`: a pass over a listener with such an action modifies it.
-/

namespace AlbListener

open Entries (get?)

namespace Action

theorem isUnmanaged_of_unmanagedOf {document : Json} {a : Action}
    (h : unmanagedOf document = .ok a) : a.isUnmanaged = true := by
  cases document <;> cases h
  rfl

/-- Actions of which one cannot be expressed differ from actions that all can be. -/
theorem sameAll_eq_false_of_unmanaged {actions targets : List Action} {a : Action}
    (hm : a ∈ actions) (ha : a.isUnmanaged = true)
    (ht : ∀ target ∈ targets, target.isUnmanaged = false) : sameAll actions targets = false := by
  induction actions generalizing targets with
  | nil => cases hm
  | cons first rest ih =>
    cases targets with
    | nil => rfl
    | cons target targets =>
      obtain ⟨hfirst, hrest⟩ := List.forall_mem_cons.mp ht
      rw [sameAll, Bool.and_eq_false_iff]
      rcases List.mem_cons.mp hm with rfl | hm
      · refine .inl (Bool.eq_false_iff.mpr fun hsame => ?_)
        rw [isUnmanaged_of_same hsame, hfirst] at ha
        cases ha
      · exact .inr (ih hm hrest)

end Action

namespace Listener

/-- A document that is refused as an action is kept as one that cannot be expressed. -/
theorem exists_unmanaged_of_ofDocument {members : List (String × Json)} {documents : List Json}
    {document : Json} {live : Listener} {reason : Invalid}
    (hl : ofDocument (.obj members) = .ok live)
    (hd : get? members "DefaultActions" = some (.arr documents)) (hm : document ∈ documents)
    (hrefused : Action.ofDocument document = .error (.invalid reason)) :
    ∃ a ∈ live.defaultActions, a.isUnmanaged = true := by
  have hactions := (ofDocument_eq_ok_iff.mp hl).actions
  rw [hd, Option.getD_some, actionsIn, Json.orElse_arr_nil, Json.elements,
    bind_of_eq_ok rfl] at hactions
  obtain ⟨ordered, hordered, hactions⟩ := bind_eq_ok_iff.mp hactions
  have hmem : document ∈ ordered := (inOrder_perm hordered).mem_iff.mpr hm
  obtain ⟨a, ha⟩ := exists_mapM_iff.mp ⟨_, hactions⟩ document hmem
  refine ⟨a, (mem_iff_of_mapM hactions).mpr (List.mem_map.mpr ⟨document, hmem, ha⟩), ?_⟩
  rw [Action.ofObserved, hrefused] at ha
  exact Action.isUnmanaged_of_unmanagedOf ha

end Listener

namespace Reconciler

variable {σ : Type} {members : List (String × Json)} {documents : List Json} {document : Json}
variable {live : Listener} {reason : Invalid} {request : Request} {config : ListenerConfig}

/-- A live listener that has an action which is refused as a document, at any place among the
    others, has drifted from whatever a request asks for. A pass over it that succeeds has modified
    it, and unless its certificates cannot be compared, its default actions are reported and the
    pass modifies it exactly once. -/
theorem modifies_unexpressed (hl : Listener.ofDocument (.obj members) = .ok live)
    (hd : get? members "DefaultActions" = some (.arr documents)) (hm : document ∈ documents)
    (hrefused : Action.ofDocument document = .error (.invalid reason))
    (hb : request.build = .ok config) (r : Reconciler σ) (s : σ) :
    let observing := { request with instance? := some live }
    (∀ result s', (r.reconcile observing).ending s = (.ok result, s') →
      result.type = .modified) ∧
    (Certificate.AllPlain live.certificates →
      ∃ drifts, live.drifts config = .ok drifts ∧
        .defaultActions live.defaultActions config.defaultActions ∈ drifts ∧
        r.calls observing s = .modify live.arn config ::
          Run.callsAfter (r.cloud.modify live.arn config s).result
            fun listener => [rulesCall request listener.arn]) := by
  intro observing
  have hdesires := Request.desires_of_build hb
  have hb' : observing.build = .ok config := (request.build_with_instance _).trans hb
  obtain ⟨a, ha, hunmanaged⟩ := Listener.exists_unmanaged_of_ofDocument hl hd hm hrefused
  have hdiffers : ¬Action.sameAll live.defaultActions config.defaultActions = true :=
    Bool.eq_false_iff.mp (Action.sameAll_eq_false_of_unmanaged ha hunmanaged hdesires.expressed)
  have hneeds {drifts : List Drift} (h : live.drifts config = .ok drifts) :
      live.needsUpdate config = .ok true := by
    rw [needsUpdate_eq_ok_of_drifts h, List.isEmpty_eq_false_iff.mpr]
    · rfl
    · exact List.ne_nil_of_mem (Listener.mem_drifts_defaultActions h hdiffers)
  have hnever : live.needsUpdate config ≠ .ok false := by
    intro hkept
    obtain ⟨drifts, hdrifts, -⟩ := bind_eq_ok_iff.mp hkept
    rw [hneeds hdrifts] at hkept
    cases hkept
  refine ⟨fun _ _ => type_of_reconcile r hb' rfl hnever, fun hplain => ?_⟩
  obtain ⟨drifts, hdrifts⟩ := Listener.exists_drifts hplain hdesires.plain
  refine ⟨drifts, hdrifts, Listener.mem_drifts_defaultActions hdrifts hdiffers, ?_⟩
  rw [calls_eq_passCalls]
  exact passCalls_modify r s hb' rfl (hneeds hdrifts)

/-! ## A listener with an unknown action -/

/-- The document of an action whose type is not known. -/
def unknownAction : Json := .obj [("Type", .str "unknown")]

/-- The documents of the built-in action and of that one. -/
def mixedActions : List Json := [Annotations.notFoundAction.toApi, unknownAction]

/-- The description of a listener with these actions, and with a certificate whose flag is given. -/
def flagged (flag : Json) : List (String × Json) :=
  [("ListenerArn", .str "arn"), ("LoadBalancerArn", .str "lb"), ("Port", .int 80),
    ("Protocol", .str "HTTP"), ("DefaultActions", .arr mixedActions),
    ("Certificates", .arr [.obj [("CertificateArn", .str "certificate"), ("IsDefault", flag)]])]

/-- The listener with that description. -/
def flaggedListener (flag : Json) : Listener where
  arn := .str "arn"
  port := 80
  protocol := .http
  defaultActions :=
    [Annotations.notFoundAction, .unmanaged "unknown" "\x7b\"Type\": \"unknown\"\x7d"]
  sslPolicy := .null
  certificates := [⟨.str "certificate", flag⟩]
  loadBalancerArn := .str "lb"

theorem ofDocument_flagged (flag : Json) :
    Listener.ofDocument (.obj (flagged flag)) = .ok (flaggedListener flag) := by
  have hplaces : ∀ document ∈ mixedActions, document.getD "Order" (.int 0) = .ok (.int 0) :=
    List.forall_mem_cons.mpr ⟨rfl, List.forall_mem_singleton.mpr rfl⟩
  have hactions : Listener.actionsIn (.arr mixedActions) =
      .ok (flaggedListener flag).defaultActions := Listener.actionsIn_of_forall hplaces
  exact Listener.ofDocument_eq_ok_iff.mpr
    ⟨hactions, rfl, ⟨_, rfl, rfl⟩, ⟨_, rfl, rfl⟩, rfl, rfl, rfl⟩

/-- A listener with a boolean flag is modified, although one of its actions is what is asked for. -/
theorem modifies_unexpressed_unknown :
    let live := flaggedListener (.bool true)
    inMemory.calls { Request.bare with instance? := some live }
        (Fleet.ofListeners [.obj (flagged (.bool true))] 0) =
      [.modify (.str "arn") Request.bareConfig, rulesCall Request.bare (.str "arn")] := by
  intro live
  have hplain : Certificate.AllPlain live.certificates := by
    simp [Certificate.AllPlain, live, flaggedListener, Json.isCompound]
  obtain ⟨-, hmodify⟩ := modifies_unexpressed (ofDocument_flagged (.bool true)) rfl
    (List.mem_cons_of_mem _ List.mem_cons_self)
    (rfl : Action.ofDocument unknownAction = .error (.invalid _))
    Request.build_bare inMemory (Fleet.ofListeners [.obj (flagged (.bool true))] 0)
  obtain ⟨-, -, -, hcalls⟩ := hmodify hplain
  exact hcalls

/-- A certificate with an array for a flag cannot be compared. Nothing is reported of a listener
    that has one, and a pass over it calls nothing. -/
theorem unexpressed_unreported :
    let live := flaggedListener (.arr [])
    Listener.ofDocument (.obj (flagged (.arr []))) = .ok live ∧
    (∀ c ∈ live.certificates, ∃ arn, c.arn = .str arn) ∧
    Action.ofDocument unknownAction = .error (.invalid (.actionType (.str "unknown"))) ∧
    Request.bare.build = .ok Request.bareConfig ∧
    live.drifts Request.bareConfig = .error (.mismatch (.hash .arr)) ∧
    inMemory.calls { Request.bare with instance? := some live } (Fleet.ofListeners [] 0) = [] := by
  intro live
  refine ⟨ofDocument_flagged _, fun c hc => ?_, rfl, Request.build_bare, rfl, rfl⟩
  rw [List.mem_singleton.mp hc]
  exact ⟨_, rfl⟩

end Reconciler

end AlbListener

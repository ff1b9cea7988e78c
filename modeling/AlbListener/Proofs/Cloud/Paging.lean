import Mathlib.Data.List.Find
import AlbListener.Proofs.Action.Shape
import AlbListener.Proofs.Cloud.Client
import AlbListener.Proofs.Trace

/-!
# Listeners in pages

The descriptions of the listeners of a load balancer are spread over pages, which are fetched one at
a time. A search for the listener on a port goes through them as if they were one list (`lookup`),
and it stops at the first description that is bound to the port: what comes after it is neither
fetched nor looked at, and no other description is read as a listener.

Results:
* `result_findListener`: pages that can all be fetched are searched as one list.
* `findListener_append`: pages without a match are passed over.
* `findListener_found`: the page with the first match is the last one that is fetched.
* `describe_paged`: a lookup by port does not depend on paging.
-/

namespace AlbListener

namespace Client

open Entries (get?)
open Fleet (hasMember)

/-! ## Descriptions -/

/-- Whether a description is bound to a port. -/
def isBound (port : Json) : Json → Bool
  | .obj members =>
    match get? members "Port" with
    | some value => value.equals port
    | none => false
  | _ => false

/-- The listener on a port: what the first description that is bound to it is read as. -/
def lookup (port : Json) (items : List Json) : Except Fault (Option Listener) :=
  match items.find? (isBound port) with
  | some item => (Listener.ofDocument item).map some
  | none => .ok none

/-- A description in which a port can be looked up, but which is bound to another one. -/
def Elsewhere (port item : Json) : Prop := item.isObject = true ∧ isBound port item = false

section

variable {port item : Json} {items : List Json}

/-- Nothing is bound to a port that it does not name. -/
theorem hasMember_port (hport : port ≠ .null) (members : List (String × Json)) :
    hasMember "Port" port (.obj members) = isBound port (.obj members) := by
  show ((get? members "Port").getD .null).equals port = _
  rw [isBound]
  cases get? members "Port" with
  | some value => rfl
  | none => cases port <;> first | rfl | exact absurd rfl hport

/-- Descriptions that are objects can be searched. -/
theorem findOnPort_of_objects (hport : port ≠ .null) (h : ∀ item ∈ items, item.isObject = true) :
    findOnPort port items = .ok (items.find? (isBound port)) := by
  have hobj : ∀ item ∈ items, ∃ members, item = .obj members :=
    fun item hm => Json.isObject_iff.mp (h item hm)
  rw [findOnPort_eq_find? hobj]
  refine congrArg _ (List.find?_congr fun item hm => ?_)
  obtain ⟨members, rfl⟩ := hobj item hm
  exact hasMember_port hport members

theorem findOnPort_of_elsewhere (hport : port ≠ .null) (h : ∀ item ∈ items, Elsewhere port item) :
    findOnPort port items = .ok none := by
  rw [findOnPort_of_objects hport fun item hm => (h item hm).1, List.find?_eq_none.mpr]
  intro item hm
  rw [(h item hm).2]
  exact Bool.false_ne_true

/-- What comes after the first match is not looked at. -/
theorem findOnPort_found (hport : port ≠ .null) (h : ∀ item ∈ items, Elsewhere port item)
    (hitem : isBound port item = true) (behind : List Json) :
    findOnPort port (items ++ item :: behind) = .ok (some item) := by
  rw [findOnPort_append, findOnPort_of_elsewhere hport h]
  show findOnPort port (item :: behind) = _
  cases item with
  | obj members =>
    rw [← hasMember_port hport] at hitem
    rw [findOnPort, Json.getD_obj, bind_of_eq_ok rfl]
    exact if_pos hitem
  | _ => cases hitem

end

/-! ## Pages -/

/-- The descriptions that a page lists; a page that names no listeners lists none. -/
inductive Lists : Json → List Json → Prop
  | absent {members : List (String × Json)} (h : get? members "Listeners" = none) :
      Lists (.obj members) []
  | given {members : List (String × Json)} {items : List Json}
      (h : get? members "Listeners" = some (.arr items)) : Lists (.obj members) items

theorem findOnPage_of_lists {port page : Json} {items : List Json} (h : Lists page items) :
    findOnPage port page = findOnPort port items := by
  have hpage : page.getD "Listeners" (.arr []) = .ok (.arr items) := by
    cases h with
    | absent h | given h => rw [Json.getD_obj, h]; rfl
  rw [findOnPage, bind_of_eq_ok hpage, Json.elements, bind_of_eq_ok rfl]

variable {σ : Type}

/-- Pages that are fetched one after the other from a state, what each of them lists, and the state
    and the effects that this leaves. -/
inductive Fetched : σ → List (Run σ Json) → List (List Json) → σ → List Effect → Prop
  | nil (s : σ) : Fetched s [] [] s []
  | cons {s s' s'' : σ} {fetch : Run σ Json} {page : Json} {items : List Json}
      {trace trace' : List Effect} {pages : List (Run σ Json)} {parts : List (List Json)}
      (hf : fetch s = ⟨.ok page, s', trace⟩) (hl : Lists page items)
      (hr : Fetched s' pages parts s'' trace') :
      Fetched s (fetch :: pages) (items :: parts) s'' (trace ++ trace')

/-- The pages of a load balancer can all be fetched and list these descriptions, one after the
    other. -/
def ListsAll (client : Client σ) (arn : Json) (s : σ) (items : List Json) : Prop :=
  ∃ pages s₁ trace parts s₂ trace',
    client.describe [("LoadBalancerArn", arn)] s = ⟨.ok pages, s₁, trace⟩ ∧
    Fetched s₁ pages parts s₂ trace' ∧ parts.flatten = items

/-- The pages of a load balancer can be fetched up to one that lists a description, before which
    they list those `ahead`. The state and the effects are those of the pages up to that one. -/
def FetchedTo (client : Client σ) (arn : Json) (s : σ) (ahead : List Json) (item : Json) (s' : σ)
    (trace : List Effect) : Prop :=
  ∃ before fetch later s₁ trace₁ parts s₂ trace₂ page trace₃ items behind,
    client.describe [("LoadBalancerArn", arn)] s = ⟨.ok (before ++ fetch :: later), s₁, trace₁⟩ ∧
    Fetched s₁ before parts s₂ trace₂ ∧ fetch s₂ = ⟨.ok page, s', trace₃⟩ ∧
    Lists page (items ++ item :: behind) ∧ ahead = parts.flatten ++ items ∧
    trace = trace₁ ++ (trace₂ ++ trace₃)

/-! ## Searching pages -/

section

variable {port item page : Json} {s s' : σ} {pages later : List (Run σ Json)}
  {parts : List (List Json)} {trace : List Effect}

/-- With a match on the first page no other page is fetched. -/
theorem findListener_cons_some {fetch : Run σ Json} (hf : fetch s = ⟨.ok page, s', trace⟩)
    (hfound : findOnPage port page = .ok (some item)) (later : List (Run σ Json)) :
    findListener port (fetch :: later) s = ⟨.ok (some item), s', trace⟩ := by
  have hread : (Run.read (findOnPage port page) : Run σ _) s' = ⟨.ok (some item), s', []⟩ := by
    rw [hfound]
    rfl
  rw [findListener, Run.bind_of_outcome hf, Run.bind_of_outcome hread]
  simp only [Pure.pure, Run.pure, List.append_nil]

/-- With no match on the first page the search goes on with the next one. -/
theorem findListener_cons_none {fetch : Run σ Json} (hf : fetch s = ⟨.ok page, s', trace⟩)
    (hfound : findOnPage port page = .ok none) (later : List (Run σ Json)) :
    findListener port (fetch :: later) s = ⟨(findListener port later s').result,
      (findListener port later s').state, trace ++ (findListener port later s').trace⟩ := by
  have hread : (Run.read (findOnPage port page) : Run σ _) s' = ⟨.ok none, s', []⟩ := by
    rw [hfound]
    rfl
  rw [findListener, Run.bind_of_outcome hf, Run.bind_of_outcome hread]
  simp only [List.nil_append]

/-- Pages that can all be fetched are searched as one list. -/
theorem result_findListener (hport : port ≠ .null) (h : Fetched s pages parts s' trace)
    (hobj : ∀ item ∈ parts.flatten, item.isObject = true) :
    (findListener port pages s).result = .ok (parts.flatten.find? (isBound port)) := by
  induction h with
  | nil => rfl
  | cons hf hl _ ih =>
    rw [List.flatten_cons, List.forall_mem_append] at hobj
    have hpage := (findOnPage_of_lists hl).trans (findOnPort_of_objects hport hobj.1)
    rw [List.flatten_cons, List.find?_append]
    cases hfind : List.find? (isBound port) _ with
    | some item =>
      rw [findListener_cons_some hf (hpage.trans (congrArg _ hfind))]
      rfl
    | none =>
      rw [findListener_cons_none hf (hpage.trans (congrArg _ hfind))]
      exact ih hobj.2

/-- Pages without a match are passed over. -/
theorem findListener_append (hport : port ≠ .null) (h : Fetched s pages parts s' trace)
    (hn : ∀ item ∈ parts.flatten, Elsewhere port item) (later : List (Run σ Json)) :
    findListener port (pages ++ later) s = ⟨(findListener port later s').result,
      (findListener port later s').state, trace ++ (findListener port later s').trace⟩ := by
  induction h with
  | nil => rfl
  | cons hf hl _ ih =>
    rw [List.flatten_cons, List.forall_mem_append] at hn
    have hpage := (findOnPage_of_lists hl).trans (findOnPort_of_elsewhere hport hn.1)
    rw [List.cons_append, findListener_cons_none hf hpage, ih hn.2]
    simp only [List.append_assoc]

/-- The page with the first match is the last one that is fetched. -/
theorem findListener_found (hport : port ≠ .null) {fetch : Run σ Json} {ahead behind : List Json}
    (hf : fetch s = ⟨.ok page, s', trace⟩) (hl : Lists page (ahead ++ item :: behind))
    (hn : ∀ item ∈ ahead, Elsewhere port item) (hitem : isBound port item = true)
    (later : List (Run σ Json)) :
    findListener port (fetch :: later) s = ⟨.ok (some item), s', trace⟩ :=
  findListener_cons_some hf
    ((findOnPage_of_lists hl).trans (findOnPort_found hport hn hitem behind)) later

end

/-! ## Lookups -/

/-- Reading a description changes nothing and leaves no trace. -/
theorem liveOf_some (item : Json) (s : σ) : liveOf (some item) s =
    ⟨((Listener.ofDocument item).mapError Stop.ofFault).map some, s, []⟩ := by
  show Run.bind _ _ s = _
  cases h : Listener.ofDocument item <;> rfl

theorem result_describe_of_listsAll {client : Client σ} {arn port : Json} {s : σ}
    {items : List Json} (hport : port ≠ .null) (h : ListsAll client arn s items)
    (hobj : ∀ item ∈ items, item.isObject = true) :
    (client.cloud.describe arn port s).result = (lookup port items).mapError Stop.ofFault := by
  obtain ⟨pages, s₁, trace, parts, s₂, trace', hcall, hfetched, rfl⟩ := h
  have hfind : (findListener port pages).ending s₁ =
      (.ok (parts.flatten.find? (isBound port)), (findListener port pages s₁).state) :=
    Prod.ext (result_findListener hport hfetched hobj) rfl
  show ((client.cloud.describe arn port).ending s).1 = _
  rw [describe_eq, Run.ending_bind_of_ok _ (congrArg (fun o => (o.result, o.state)) hcall),
    Run.ending_bind_of_ok _ hfind, lookup]
  cases parts.flatten.find? (isBound port) with
  | none => rfl
  | some item =>
    rw [ending_liveOf_some]
    exact mapError_map some (Listener.ofDocument item)

/-- A lookup finds nothing only if nothing is bound to the port. -/
theorem lookup_eq_none_iff {port : Json} {items : List Json} :
    (lookup port items).mapError Stop.ofFault = .ok none ↔
      ∀ item ∈ items, isBound port item = false := by
  unfold lookup
  cases hfind : items.find? (isBound port) with
  | none =>
    refine iff_of_true rfl fun item hm => ?_
    exact Bool.not_eq_true _ |>.mp (List.find?_eq_none.mp hfind item hm)
  | some item =>
    refine iff_of_false (fun h => ?_) fun h => ?_
    · dsimp only at h
      rw [← mapError_map] at h
      cases hread : Listener.ofDocument item with
      | error fault => rw [hread] at h; cases h
      | ok live => rw [hread] at h; cases h
    · exact absurd (List.find?_some hfind) (by rw [h item (List.mem_of_find?_eq_some hfind)]; decide)

/-- A lookup by port does not depend on paging. If the pages can be fetched, it gives the first
    description on the port among all that they list, whatever client pages them, and nothing only
    if there is none. If they can be fetched up to the first match, it ends with that page. -/
theorem describe_paged (client : Client σ) (arn : Json) {port : Json} (hport : port ≠ .null)
    (s : σ) :
    (∀ items, ListsAll client arn s items → (∀ item ∈ items, item.isObject = true) →
      (client.cloud.describe arn port s).result = (lookup port items).mapError Stop.ofFault ∧
      ((client.cloud.describe arn port s).result = .ok none ↔
        ∀ item ∈ items, isBound port item = false) ∧
      ∀ {τ : Type} (other : Client τ) (arn' : Json) (t : τ), ListsAll other arn' t items →
        (other.cloud.describe arn' port t).result = (client.cloud.describe arn port s).result) ∧
    ∀ ahead item s' trace, FetchedTo client arn s ahead item s' trace →
      (∀ other ∈ ahead, Elsewhere port other) → isBound port item = true →
      client.cloud.describe arn port s =
        ⟨((Listener.ofDocument item).mapError Stop.ofFault).map some, s', trace⟩ := by
  constructor
  · intro items hlists hobj
    have hresult := result_describe_of_listsAll hport hlists hobj
    refine ⟨hresult, by rw [hresult, lookup_eq_none_iff], fun other arn' t hother => ?_⟩
    rw [hresult, result_describe_of_listsAll hport hother hobj]
  · rintro ahead item s' trace ⟨before, fetch, later, s₁, trace₁, parts, s₂, trace₂, page, trace₃,
      items, behind, hcall, hbefore, hfetch, hpage, rfl, rfl⟩ hn hitem
    rw [List.forall_mem_append] at hn
    have hfind : findListener port (before ++ fetch :: later) s₁ =
        ⟨.ok (some item), s', trace₂ ++ trace₃⟩ := by
      rw [findListener_append hport hbefore hn.1, findListener_found hport hfetch hpage hn.2 hitem]
    rw [describe_eq, Run.bind_of_outcome hcall, Run.bind_of_outcome hfind, liveOf_some]
    simp only [List.append_nil]

/-- A provider that does nothing but list descriptions in these pages. -/
def pager (pages : List (Run Unit Json)) : Client Unit where
  create _ := Run.stop .cancelled
  modify _ := Run.stop .cancelled
  describe _ := Run.pure pages

/-- A page that lists descriptions. -/
def pageOf (items : List Json) : Run Unit Json := Run.pure (.obj [("Listeners", .arr items)])

/-- A page that says nothing of listeners. -/
def barePage : Run Unit Json := Run.pure (.obj [])

/-- The description of a listener on port 80. -/
def on80 (arn : String) : Json :=
  .obj [("ListenerArn", .str arn), ("Port", .int 80), ("Protocol", .str "HTTP")]

/-- A description that cannot be read as a listener, on another port. -/
def on443 : Json := .obj [("Port", .int 443)]

theorem describe_paged_twice :
    ((pager [pageOf [on443, on80 "a", on80 "b"]]).cloud.describe (.str "lb") (.int 80) ()).result =
      ((pager [barePage, pageOf [on443], pageOf [], pageOf [on80 "a"],
        pageOf [on80 "b"]]).cloud.describe (.str "lb") (.int 80) ()).result ∧
    (pager [pageOf [on443, on80 "a", .null], Run.stop .cancelled]).cloud.describe (.str "lb")
        (.int 80) () =
      ⟨.ok (some ⟨.str "a", 80, .http, [], .null, [], .null⟩), (), []⟩ := by
  have hport : Json.int 80 ≠ .null := by simp
  have hpage (items : List Json) : Lists (.obj [("Listeners", .arr items)]) items := .given rfl
  have hfetch (items : List Json) :
      pageOf items () = ⟨.ok (.obj [("Listeners", .arr items)]), (), []⟩ := rfl
  have hbare : barePage () = ⟨.ok (.obj []), (), []⟩ := rfl
  have hone : ListsAll (pager [pageOf [on443, on80 "a", on80 "b"]]) (.str "lb") ()
      [on443, on80 "a", on80 "b"] :=
    ⟨_, (), [], [[on443, on80 "a", on80 "b"]], (), [], rfl,
      .cons (hfetch _) (hpage _) (.nil ()), rfl⟩
  have hmany : ListsAll (pager [barePage, pageOf [on443], pageOf [], pageOf [on80 "a"],
      pageOf [on80 "b"]]) (.str "lb") () [on443, on80 "a", on80 "b"] :=
    ⟨_, (), [], [[], [on443], [], [on80 "a"], [on80 "b"]], (), [], rfl,
      .cons hbare (.absent rfl) (.cons (hfetch _) (hpage _) (.cons (hfetch _) (hpage _)
        (.cons (hfetch _) (hpage _) (.cons (hfetch _) (hpage _) (.nil ()))))), rfl⟩
  have hobj : ∀ item ∈ [on443, on80 "a", on80 "b"], item.isObject = true := by decide
  have hto : FetchedTo (pager [pageOf [on443, on80 "a", .null], Run.stop .cancelled]) (.str "lb") ()
      [on443] (on80 "a") () [] :=
    ⟨[], _, _, (), [], [], (), [], _, [], [on443], [.null], rfl, .nil (), rfl, hpage _, rfl, rfl⟩
  have helsewhere : ∀ other ∈ [on443], Elsewhere (.int 80) other :=
    List.forall_mem_singleton.mpr ⟨rfl, by decide +kernel⟩
  have hread : Listener.ofDocument (on80 "a") =
      .ok ⟨.str "a", 80, .http, [], .null, [], .null⟩ := rfl
  refine ⟨?_, ?_⟩
  · exact ((describe_paged _ (.str "lb") hport ()).1 _ hmany hobj).2.2 _ _ _ hone
  · rw [(describe_paged _ (.str "lb") hport ()).2 _ _ _ _ hto helsewhere (by decide +kernel), hread]
    rfl

end Client

end AlbListener

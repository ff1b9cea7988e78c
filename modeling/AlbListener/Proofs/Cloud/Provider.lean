import Mathlib.Data.List.Forall2
import AlbListener.Cloud.Fleet
import AlbListener.Proofs.Json
import AlbListener.Proofs.Run

/-!
# What a provider promises

A provider keeps descriptions of listeners. `Client.Merges` and `Client.Keeps` say what a
client may count on: that a modify call stores its parameters over the description it is for,
that a create call stores its parameters under a new arn, and that what is stored is described
as it is. Every call may fail, and so may fetching a page.

Results:
* `merges_client`, `keeps_client`: a provider in memory keeps both promises.
* `ending_findListener`: what a search through the pages finds.
-/

namespace AlbListener

open Fleet (hasMember merge param answerWith modifyFirst)

namespace Client

variable {σ : Type}

/-- The description that a create call stores. -/
def described (arn : String) (params : List (String × Json)) : Json :=
  .obj (Entries.overlay [("ListenerArn", .str arn)] params)

/-- A provider that stores the parameters of a modify call over the description of the
    listener, and answers with the result. -/
def Merges (client : Client σ) (Valid : σ → Prop) (stored : σ → List Json) : Prop :=
  ∀ {params s answer s'}, Valid s → (client.modify params).ending s = (.ok answer, s') →
    ∃ found, modifyFirst (param params "ListenerArn") params (stored s) = some found ∧
      answer = answerWith found.2

/-- A page that lists some descriptions, whenever fetching it succeeds. -/
def Serves (Valid : σ → Prop) (stored : σ → List Json) (fetch : Run σ Json)
    (part : List Json) : Prop :=
  ∀ {s result s'}, Valid s → fetch.ending s = (result, s') → Valid s' ∧ stored s' = stored s ∧
    ∀ page, result = .ok page → page.getD "Listeners" (.arr []) = .ok (.arr part)

/-- A provider that stores the parameters of a create call under an arn, if the call has an
    effect at all, and describes the listeners of a load balancer as they are stored. -/
structure Keeps (client : Client σ) (Valid : σ → Prop) (stored : σ → List Json) : Prop where
  create : ∀ {params s result s'}, Valid s → (client.create params).ending s = (result, s') →
    Valid s' ∧
    ((stored s' = stored s ∧ ∃ reason, result = .error reason) ∨
      ∃ arn, stored s' = stored s ++ [described arn params] ∧
        ∀ answer, result = .ok answer → answer = answerWith (described arn params))
  describe : ∀ {arn s result s'}, Valid s →
    (client.describe [("LoadBalancerArn", arn)]).ending s = (result, s') →
    Valid s' ∧ stored s' = stored s ∧
    ∀ pages, result = .ok pages → ∃ parts : List (List Json),
      List.Forall₂ (Serves Valid stored) pages parts ∧
      ∀ item, item ∈ parts.flatten ↔ item ∈ stored s ∧ hasMember "LoadBalancerArn" arn item = true

/-- The provider's part in describing the listeners of a load balancer stops: the call, or
    fetching one of its pages. -/
def DescribeStops (client : Client σ) (arn : Json) (s : σ) (reason : Stop) : Prop :=
  (client.describe [("LoadBalancerArn", arn)] s).result = .error reason ∨
  ∃ pages, (client.describe [("LoadBalancerArn", arn)] s).result = .ok pages ∧
    ∃ fetch ∈ pages, ∃ s', (fetch s').result = .error reason

/-! ## Searching descriptions -/

/-- Descriptions that are objects can be searched. -/
theorem findOnPort_eq_find? {port : Json} {items : List Json}
    (h : ∀ item ∈ items, ∃ members, item = .obj members) :
    findOnPort port items = .ok (items.find? (hasMember "Port" port)) := by
  induction items with
  | nil => rfl
  | cons item rest ih =>
    obtain ⟨⟨members, rfl⟩, hrest⟩ := List.forall_mem_cons.mp h
    rw [findOnPort, Json.getD_obj, bind_of_eq_ok rfl, ih hrest, List.find?_cons]
    by_cases hport : hasMember "Port" port (.obj members) = true
    · rw [hport]
      exact if_pos hport
    · rw [Bool.not_eq_true _ |>.mp hport]
      exact if_neg hport

theorem findOnPage_eq_find? (port : Json) {page : Json} {part : List Json}
    (hpage : page.getD "Listeners" (.arr []) = .ok (.arr part))
    (h : ∀ item ∈ part, ∃ members, item = .obj members) :
    findOnPage port page = .ok (part.find? (hasMember "Port" port)) := by
  rw [findOnPage, bind_of_eq_ok hpage, Json.elements, bind_of_eq_ok rfl, findOnPort_eq_find? h]

/-- A search through the pages finds the first description on the port, unless fetching a page
    fails before. -/
theorem ending_findListener {Valid : σ → Prop} {stored : σ → List Json} (port : Json)
    {pages : List (Run σ Json)} {parts : List (List Json)} {s : σ} (hs : Valid s)
    (hp : List.Forall₂ (Serves Valid stored) pages parts)
    (hobj : ∀ item ∈ parts.flatten, ∃ members, item = .obj members) :
    ∃ s', Valid s' ∧ stored s' = stored s ∧
      ((∃ reason, (findListener port pages).ending s = (.error reason, s') ∧
          ∃ fetch ∈ pages, ∃ s'', (fetch s'').result = .error reason) ∨
        (findListener port pages).ending s =
          (.ok (parts.flatten.find? (hasMember "Port" port)), s')) := by
  induction hp generalizing s with
  | nil => exact ⟨s, hs, rfl, .inr rfl⟩
  | @cons fetch part pages parts hfetch _ ih =>
    rw [List.flatten_cons, List.forall_mem_append] at hobj
    rw [findListener, List.flatten_cons]
    rcases hend : fetch.ending s with ⟨reason | page, s'⟩
    · obtain ⟨hvalid, hstored, -⟩ := hfetch hs hend
      exact ⟨s', hvalid, hstored, .inl ⟨reason, Run.ending_bind_of_error _ hend, fetch,
        List.mem_cons_self, s, congrArg Prod.fst hend⟩⟩
    · obtain ⟨hvalid, hstored, hpage⟩ := hfetch hs hend
      have hfound := findOnPage_eq_find? port (hpage page rfl) hobj.1
      have hread : (Run.read (findOnPage port page) : Run σ _).ending s' =
          (.ok (part.find? (hasMember "Port" port)), s') := by
        rw [Run.ending_read, hfound]
        rfl
      rw [Run.ending_bind_of_ok _ hend, Run.ending_bind_of_ok _ hread, List.find?_append]
      rcases hitem : part.find? (hasMember "Port" port) with _ | item
      · obtain ⟨s'', hvalid', hstored', hend'⟩ := ih hvalid hobj.2
        refine ⟨s'', hvalid', hstored'.trans hstored, hend'.imp_left ?_⟩
        rintro ⟨reason, hreason, fetch', hm, hstop⟩
        exact ⟨reason, hreason, fetch', List.mem_cons_of_mem _ hm, hstop⟩
      · exact ⟨_, hvalid, hstored, .inr rfl⟩

end Client

namespace Fleet

open Client (Serves Keeps Merges described)

/-! ## A provider in memory -/

/-- No answers are set from outside. -/
def Unscripted (fleet : Fleet) : Prop := fleet.answer? = none ∧ fleet.pages? = none

/-- A call that does not fail changes nothing by being recorded. -/
theorem ending_send (call : Call) (params : List (String × Json)) (fleet : Fleet) :
    (∃ reason pending, (send call params).ending fleet =
      (.error reason, { fleet with pending })) ∨
    (send call params).ending fleet = (.ok (), fleet) := by
  unfold Run.ending send
  dsimp only
  split
  · exact .inl ⟨_, _, rfl⟩
  · exact .inr rfl

/-- What is modified is the first description of the arn. -/
theorem modifyFirst_of_find? {arn description : Json} (params : List (String × Json))
    {listeners : List Json} (h : listeners.find? (hasMember "ListenerArn" arn) = some description) :
    ∃ modified, modifyFirst arn params listeners = some (modified, merge params description) := by
  induction listeners with
  | nil => cases h
  | cons first rest ih =>
    rw [List.find?_cons] at h
    rw [modifyFirst]
    by_cases hfirst : hasMember "ListenerArn" arn first = true
    · rw [hfirst] at h
      cases h
      rw [if_pos hfirst]
      exact ⟨_, rfl⟩
    · rw [Bool.not_eq_true _ |>.mp hfirst] at h
      obtain ⟨modified, hm⟩ := ih h
      rw [if_neg hfirst, hm]
      exact ⟨_, rfl⟩

theorem flatten_chunks {size fuel : ℕ} {listeners : List Json} (hs : 0 < size)
    (h : listeners.length ≤ fuel) : (chunks size fuel listeners).flatten = listeners := by
  induction fuel generalizing listeners with
  | zero => rw [List.length_eq_zero_iff.mp (Nat.le_zero.mp h)]; rfl
  | succ fuel ih =>
    cases listeners with
    | nil => rfl
    | cons first rest =>
      rw [chunks, List.flatten_cons, ih, List.take_append_drop]
      · rw [List.length_drop]
        rw [List.length_cons] at h ⊢
        omega
      · simp

/-- The pages list the listeners of the load balancer. -/
theorem exists_parts (fleet : Fleet) (arn : Json) :
    ∃ parts : List (List Json),
      fleet.pages arn = parts.map (fun part => .obj [("Listeners", .arr part)]) ∧
      parts.flatten = fleet.listeners.filter (hasMember "LoadBalancerArn" arn) := by
  refine ⟨_, rfl, ?_⟩
  split_ifs with h
  · rw [List.flatten_singleton]
  · exact flatten_chunks (Nat.pos_of_ne_zero fun h0 => h (.inl h0)) (Nat.le_refl _)

theorem merges_client : client.Merges Unscripted Fleet.listeners := by
  intro params fleet answer fleet' hs h
  rcases ending_send .modify params fleet with ⟨reason, pending, hsend⟩ | hsend
  · have hend : (client.modify params).ending fleet = _ := Run.ending_bind_of_error _ hsend
    cases hend.symm.trans h
  · have hend : (client.modify params).ending fleet = _ := Run.ending_bind_of_ok _ hsend
    rw [hend] at h
    dsimp only [Run.ending] at h
    rw [hs.1] at h
    dsimp only at h
    split at h
    · rename_i listeners listener hfound
      cases h
      exact ⟨_, hfound, rfl⟩
    · cases h

theorem serves_pure (part : List Json) :
    Serves Unscripted Fleet.listeners (Run.pure (.obj [("Listeners", .arr part)])) part := by
  intro fleet result fleet' hs h
  cases h
  exact ⟨hs, rfl, fun page hpage => by cases hpage; rfl⟩

theorem keeps_client : client.Keeps Unscripted Fleet.listeners where
  create := by
    intro params fleet result fleet' hs h
    rcases ending_send .create params fleet with ⟨reason, pending, hsend⟩ | hsend
    · have hend : (client.create params).ending fleet = _ := Run.ending_bind_of_error _ hsend
      cases hend.symm.trans h
      exact ⟨hs, .inl ⟨rfl, reason, rfl⟩⟩
    · have hend : (client.create params).ending fleet = _ := Run.ending_bind_of_ok _ hsend
      rw [hend] at h
      dsimp only [Run.ending] at h
      rw [hs.1] at h
      cases h
      exact ⟨hs, .inr ⟨_, rfl, fun answer hanswer => by cases hanswer; rfl⟩⟩
  describe := by
    intro arn fleet result fleet' hs h
    rcases ending_send .describe [("LoadBalancerArn", arn)] fleet with
      ⟨reason, pending, hsend⟩ | hsend
    · have hend : (client.describe [("LoadBalancerArn", arn)]).ending fleet = _ :=
        Run.ending_bind_of_error _ hsend
      cases hend.symm.trans h
      exact ⟨hs, rfl, fun pages hpages => by cases hpages⟩
    · have hend : (client.describe [("LoadBalancerArn", arn)]).ending fleet = _ :=
        Run.ending_bind_of_ok _ hsend
      rw [hend] at h
      dsimp only [Run.ending] at h
      rw [hs.2] at h
      cases h
      refine ⟨hs, rfl, fun pages hpages => ?_⟩
      cases hpages
      obtain ⟨parts, hparts, hflatten⟩ := exists_parts fleet arn
      refine ⟨parts, ?_, fun item => ?_⟩
      · show List.Forall₂ _ ((fleet.pages arn).map Run.pure) parts
        rw [hparts, List.map_map, List.forall₂_map_left_iff, List.forall₂_same]
        exact fun part _ => serves_pure part
      · rw [hflatten, List.mem_filter]

end Fleet

end AlbListener

import AlbListener.Proofs.Cloud.Client
import AlbListener.Proofs.Trace

/-!
# The listeners of a fleet

Every listener that a fleet holds has a card: the load balancer that it is on, the number under
which it was created, and its port. `Fleet.Registers` says that the cards are right and that no
two of them name the same arn or the same place.

Results:
* `number_eq_of_arn_eq`: an arn tells the number under which a listener was created.
* `registers_create`: a new listener gets a card of its own.
* `registers_modify`: a modified listener keeps its card, and the others are left alone.
* `state_describe`, `grows_create`, `grows_modify`: what the calls to the cloud change.
-/

namespace AlbListener

open Client (OnPort described)

namespace Json

/-- Whole numbers are equal if they are the same integer. -/
theorem equals_iff_of_isInteger {a b : Json} {m n : ℤ} (ha : a.IsInteger m) (hb : b.IsInteger n) :
    a.equals b = true ↔ m = n := by
  have hnan : a.isNaN = false := by
    unfold isNaN
    split
    · cases ha
    · rfl
  rw [equals, hnan, same_eq_sameScalar (isCompound_of_isWhole ⟨m, ha⟩), Bool.not_false,
    Bool.true_and]
  unfold IsInteger at ha hb
  cases a <;> cases b <;> simp_all [sameScalar, number?, Number.ofInt_inj]

end Json

/-! ## Cards -/

/-- What is known of a listener that is stored: its load balancer, the number under which it was
    created, and its port. -/
structure Card where
  loadBalancer : String
  number : ℕ
  port : ℤ

namespace Card

/-- The arn that a listener got when it was created. -/
def arn (card : Card) : String := card.loadBalancer ++ "/listener/" ++ Text.natText card.number

/-- The cards of two listeners: with different arns, and not on the same port of the same load
    balancer. -/
def Apart (a b : Card) : Prop :=
  a.arn ≠ b.arn ∧ ¬(a.loadBalancer = b.loadBalancer ∧ a.port = b.port)

/-- The card of a description that can be read as a listener. -/
structure IsOf (card : Card) (item : Json) : Prop where
  arn : item.member "ListenerArn" = .ok (.str card.arn)
  loadBalancer : item.member "LoadBalancerArn" = .ok (.str card.loadBalancer)
  port : ∃ port, item.member "Port" = .ok port ∧ port.IsInteger card.port
  reads : ∃ live, Listener.ofDocument item = .ok live

theorem slash_not_mem_toDigits (n : ℕ) : '/' ∉ Nat.toDigits 10 n := fun h => by
  have := Text.isSome_decimalValue?_toDigits h
  exact absurd this (by decide)

/-- The numeral behind the last slash of an arn is the number of the listener. -/
theorem number_eq_of_arn_eq {a b : Card} (h : a.arn = b.arn) : a.number = b.number := by
  have hdigits (card : Card) : card.arn.toList.reverse.takeWhile (· != '/') =
      (Nat.toDigits 10 card.number).reverse := by
    have hlist : card.arn.toList.reverse = (Nat.toDigits 10 card.number).reverse ++
        ("/listener/".toList.reverse ++ card.loadBalancer.toList.reverse) := by
      simp [arn, Text.natText]
    rw [hlist, List.takeWhile_append_of_pos]
    · simp
    · intro c hc
      rw [List.mem_reverse] at hc
      exact bne_iff_ne.mpr fun hslash => slash_not_mem_toDigits _ (hslash ▸ hc)
  have hsame : (Nat.toDigits 10 a.number).reverse = (Nat.toDigits 10 b.number).reverse := by
    rw [← hdigits, h, hdigits]
  have hread := congrArg Text.natural? (List.reverse_injective hsame)
  rwa [Text.natural?_toDigits, Text.natural?_toDigits, Option.some.injEq] at hread

variable {card : Card} {item : Json}

theorem hasMember_iff {name : String} {found value : Json} (h : item.member name = .ok found) :
    Fleet.hasMember name value item = true ↔ found.equals value = true := by
  cases item with
  | obj members =>
    rw [Fleet.hasMember, Json.member_obj_eq_ok_iff.mp h]
    rfl
  | _ => cases h

theorem IsOf.hasMember_arn_iff (h : card.IsOf item) {arn : String} :
    Fleet.hasMember "ListenerArn" (.str arn) item = true ↔ card.arn = arn :=
  (hasMember_iff h.arn).trans Json.equals_str_iff

/-- A listener is on a port of a load balancer exactly if its card says so. -/
theorem IsOf.onPort_iff (h : card.IsOf item) {loadBalancer : String} {port : Json} {n : ℤ}
    (hp : port.IsInteger n) :
    OnPort (.str loadBalancer) port item ↔ card.loadBalancer = loadBalancer ∧ card.port = n := by
  obtain ⟨found, hfound, hinteger⟩ := h.port
  exact and_congr ((hasMember_iff h.loadBalancer).trans Json.equals_str_iff)
    ((hasMember_iff hfound).trans (Json.equals_iff_of_isInteger hinteger hp))

/-! ## Cards of what is stored -/

/-- The parameters of a modify call for its port leave a listener its card. -/
theorem IsOf.merge (h : card.IsOf item) {live : Listener} {config : ListenerConfig}
    (hlive : Listener.ofDocument item = .ok live) (ha : ∀ a ∈ config.defaultActions, a.Managed)
    (hp : config.port.IsInteger card.port) :
    live.arn = .str card.arn ∧
      card.IsOf (Fleet.merge (("ListenerArn", live.arn) :: config.toApi) item) := by
  cases item with
  | obj members =>
    have hdescribes := Listener.ofDocument_eq_ok_iff.mp hlive
    have harn : live.arn = .str card.arn :=
      Option.some.inj (hdescribes.arn.symm.trans (Json.member_obj_eq_ok_iff.mp h.arn))
    have hget (key : String) : Entries.get?
        (Entries.overlay members (("ListenerArn", live.arn) :: config.toApi)) key =
          (Entries.get? config.toApi key).or
            (Entries.get? (Entries.put members "ListenerArn" live.arn) key) :=
      Listener.get?_overlay_toApi _ config key
    refine ⟨harn, ?_, ?_, ⟨config.port, ?_, hp⟩, _, Listener.ofDocument_eq_ok_iff.mpr
      (Listener.describes_stored hdescribes ha (Json.toInteger_of_isInteger hp))⟩
    · rw [Fleet.merge, Json.member_obj_eq_ok_iff, hget, config.get?_toApi_of_not_mem _ (by decide),
        Option.none_or, Entries.get?_put_self, harn]
    · rw [Fleet.merge, Json.member_obj_eq_ok_iff, hget, config.get?_toApi_of_not_mem _ (by decide),
        Option.none_or, Entries.get?_put_of_ne _ _ (by decide)]
      exact Json.member_obj_eq_ok_iff.mp h.loadBalancer
    · rw [Fleet.merge, Json.member_obj_eq_ok_iff, hget, config.get?_toApi_port]
      rfl
  | _ => cases h.arn

/-- What a create call stores is on a card. -/
theorem isOf_described {config : ListenerConfig} (ha : ∀ a ∈ config.defaultActions, a.Managed)
    (hp : config.port.IsInteger card.port) :
    card.IsOf
      (described card.arn (("LoadBalancerArn", .str card.loadBalancer) :: config.toApi)) := by
  have hget (key : String) : Entries.get? (Entries.overlay [("ListenerArn", .str card.arn)]
      (("LoadBalancerArn", .str card.loadBalancer) :: config.toApi)) key =
        (Entries.get? config.toApi key).or (Entries.get? [("ListenerArn", .str card.arn),
          ("LoadBalancerArn", .str card.loadBalancer)] key) :=
    Listener.get?_overlay_toApi _ config key
  refine ⟨?_, ?_, ⟨config.port, ?_, hp⟩, _, Listener.ofDocument_eq_ok_iff.mpr
    (Listener.describes_created ha (Json.toInteger_of_isInteger hp))⟩
  · rw [described, Json.member_obj_eq_ok_iff, hget, config.get?_toApi_of_not_mem _ (by decide)]
    rfl
  · rw [described, Json.member_obj_eq_ok_iff, hget, config.get?_toApi_of_not_mem _ (by decide)]
    rfl
  · rw [described, Json.member_obj_eq_ok_iff, hget, config.get?_toApi_port]
    rfl

theorem exists_card {cards : List Card} {listeners : List Json}
    (h : List.Forall₂ IsOf cards listeners) (hm : item ∈ listeners) :
    ∃ card ∈ cards, card.IsOf item := by
  obtain ⟨i, hi, rfl⟩ := List.getElem_of_mem hm
  have hi' : i < cards.length := h.length_eq ▸ hi
  exact ⟨cards[i], List.getElem_mem hi', h.get hi' hi⟩

theorem exists_item {cards : List Card} {listeners : List Json}
    (h : List.Forall₂ IsOf cards listeners) (hm : card ∈ cards) :
    ∃ item ∈ listeners, card.IsOf item := by
  obtain ⟨i, hi, rfl⟩ := List.getElem_of_mem hm
  have hi' : i < listeners.length := h.length_eq ▸ hi
  exact ⟨listeners[i], List.getElem_mem hi', h.get hi hi'⟩

end Card

namespace Fleet

variable {fleet fleet' : Fleet} {cards : List Card}

/-- The cards of all listeners that a fleet holds. -/
structure Registers (fleet : Fleet) (cards : List Card) : Prop where
  unscripted : fleet.Unscripted
  described : List.Forall₂ Card.IsOf cards fleet.listeners
  numbered : ∀ card ∈ cards, card.number ≤ fleet.created
  apart : cards.Pairwise Card.Apart

/-- A fleet that holds the listeners that there were before, and perhaps one more. Every listener
    keeps its card, and those that are not on a given port stay as they are. -/
structure Grows (loadBalancerArn port : Json) (cards added : List Card) (before : List Json)
    (fleet : Fleet) : Prop where
  registers : fleet.Registers (cards ++ added)
  added : added.length ≤ 1
  kept : ∃ kept fresh, fleet.listeners = kept ++ fresh ∧ List.Forall₂ Card.IsOf cards kept ∧
    List.Forall₂ (fun old new => ¬OnPort loadBalancerArn port old → new = old) before kept

theorem registers_ofListeners (pageSize : ℕ) : (ofListeners [] pageSize).Registers [] where
  unscripted := ⟨rfl, rfl⟩
  described := .nil
  numbered := fun _ h => by cases h
  apart := .nil

/-- Failures that are pending are on no card. -/
theorem Registers.pending (h : fleet.Registers cards) (pending : List (Call × Injected)) :
    { fleet with pending }.Registers cards :=
  ⟨h.unscripted, h.described, h.numbered, h.apart⟩

theorem Registers.grows (h : fleet.Registers cards) (loadBalancerArn port : Json)
    (pending : List (Call × Injected)) :
    Grows loadBalancerArn port cards [] fleet.listeners { fleet with pending } where
  registers := by
    rw [List.append_nil]
    exact h.pending pending
  added := Nat.zero_le 1
  kept := ⟨fleet.listeners, [], (List.append_nil _).symm, h.described,
    List.forall₂_same.mpr fun _ _ _ => rfl⟩

/-! ## Creating -/

/-- A new listener gets a card of its own, if its port is free. -/
theorem registers_create (h : fleet.Registers cards) {loadBalancer : String}
    {config : ListenerConfig} {n : ℤ} (ha : ∀ a ∈ config.defaultActions, a.Managed)
    (hp : config.port.IsInteger n)
    (hfree : ∀ item ∈ fleet.listeners, ¬OnPort (.str loadBalancer) config.port item) :
    let card : Card := ⟨loadBalancer, fleet.created + 1, n⟩
    let params := ("LoadBalancerArn", Json.str loadBalancer) :: config.toApi
    (∃ live, Listener.ofDocument (fleet.create params).2 = .ok live) ∧
    Grows (.str loadBalancer) config.port cards [card] fleet.listeners (fleet.create params).1 := by
  intro card params
  have hlisteners : (fleet.create params).1.listeners =
      fleet.listeners ++ [described card.arn params] := rfl
  have hcard : card.IsOf (described card.arn params) := Card.isOf_described ha hp
  have hnew : ∀ other ∈ cards, other.Apart card := by
    refine fun other hm => ⟨fun harn => ?_, fun hplace => ?_⟩
    · have hnumber : other.number = fleet.created + 1 := Card.number_eq_of_arn_eq harn
      have := h.numbered other hm
      omega
    · obtain ⟨item, hitem, hother⟩ := Card.exists_item h.described hm
      exact hfree item hitem ((hother.onPort_iff hp).mpr hplace)
  refine ⟨hcard.reads, ⟨⟨h.unscripted, ?_, ?_, ?_⟩, Nat.le_refl 1, ?_⟩⟩
  · rw [hlisteners]
    exact List.rel_append h.described (.cons hcard .nil)
  · intro other hm
    rcases List.mem_append.mp hm with hm | hm
    · exact Nat.le_succ_of_le (h.numbered other hm)
    · rw [List.mem_singleton.mp hm]
      exact Nat.le_refl _
  · rw [List.pairwise_append]
    refine ⟨h.apart, List.pairwise_singleton _ _, fun other hm card' hm' => ?_⟩
    rw [List.mem_singleton.mp hm']
    exact hnew other hm
  · exact ⟨fleet.listeners, _, hlisteners, h.described, List.forall₂_same.mpr fun _ _ _ => rfl⟩

/-! ## Modifying -/

/-- What is modified is the listener with the arn; all others stay as they are. -/
theorem modifyFirst_of_mem {listeners : List Json} (h : List.Forall₂ Card.IsOf cards listeners)
    (hapart : cards.Pairwise Card.Apart) {card : Card} {item : Json} (hm : item ∈ listeners)
    (hitem : card.IsOf item) (params : List (String × Json)) :
    ∃ modified, modifyFirst (.str card.arn) params listeners =
        some (modified, merge params item) ∧
      List.Forall₂ (fun old new => new = old ∨ (old = item ∧ new = merge params item))
        listeners modified := by
  induction h with
  | nil => cases hm
  | @cons first description cards rest hfirst hrest ih =>
    obtain ⟨hother, hapart⟩ := List.pairwise_cons.mp hapart
    rw [modifyFirst]
    by_cases harn : hasMember "ListenerArn" (.str card.arn) description = true
    · -- no other listener has the arn
      obtain rfl : item = description := by
        rcases List.mem_cons.mp hm with rfl | hm
        · rfl
        · obtain ⟨other, hmem, hisOf⟩ := Card.exists_card hrest hm
          have hsame : first.arn = other.arn := by
            rw [hfirst.hasMember_arn_iff.mp harn]
            exact Json.str.inj (Except.ok.inj (hitem.arn.symm.trans hisOf.arn))
          exact absurd hsame (hother other hmem).1
      rw [if_pos harn]
      exact ⟨_, rfl, .cons (.inr ⟨rfl, rfl⟩) (List.forall₂_same.mpr fun _ _ => .inl rfl)⟩
    · have hm : item ∈ rest := (List.mem_cons.mp hm).resolve_left fun hsame =>
        harn (hsame ▸ hitem.hasMember_arn_iff.mpr rfl)
      obtain ⟨modified, hmodified, hkept⟩ := ih hapart hm
      rw [if_neg harn, hmodified]
      exact ⟨_, rfl, .cons (.inl rfl) hkept⟩

theorem forall₂_isOf_of_kept {listeners kept : List Json} {item new : Json}
    (h : List.Forall₂ Card.IsOf cards listeners)
    (hk : List.Forall₂ (fun old now => now = old ∨ (old = item ∧ now = new)) listeners kept)
    (hnew : ∀ card : Card, card.IsOf item → card.IsOf new) :
    List.Forall₂ Card.IsOf cards kept := by
  induction h generalizing kept with
  | nil =>
    cases hk
    exact .nil
  | cons hfirst _ ih =>
    cases hk with
    | cons hnow hk =>
      refine .cons ?_ (ih hk)
      rcases hnow with rfl | ⟨rfl, rfl⟩
      · exact hfirst
      · exact hnew _ hfirst

/-- A listener that is modified for its port keeps its card, and all others stay as they are. -/
theorem registers_modify (h : fleet.Registers cards) {loadBalancer : String}
    {config : ListenerConfig} {n : ℤ} {item : Json} {live : Listener}
    (ha : ∀ a ∈ config.defaultActions, a.Managed) (hp : config.port.IsInteger n)
    (hm : item ∈ fleet.listeners) (hport : OnPort (.str loadBalancer) config.port item)
    (hlive : Listener.ofDocument item = .ok live) :
    let params := ("ListenerArn", live.arn) :: config.toApi
    ∃ modified, modifyFirst live.arn params fleet.listeners =
        some (modified, merge params item) ∧
      (∃ answered, Listener.ofDocument (merge params item) = .ok answered) ∧
      Grows (.str loadBalancer) config.port cards [] fleet.listeners
        { fleet with listeners := modified } := by
  intro params
  have hmerge (card : Card) (hitem : card.IsOf item) :
      live.arn = .str card.arn ∧ card.IsOf (merge params item) := by
    refine hitem.merge hlive ha ?_
    rw [((hitem.onPort_iff hp).mp hport).2]
    exact hp
  obtain ⟨card, -, hitem⟩ := Card.exists_card h.described hm
  obtain ⟨harn, hcard⟩ := hmerge card hitem
  obtain ⟨modified, hmodified, hkept⟩ :=
    modifyFirst_of_mem h.described h.apart hm hitem params
  have hdescribed := forall₂_isOf_of_kept h.described hkept
    fun other hother => (hmerge other hother).2
  rw [harn]
  refine ⟨modified, hmodified, hcard.reads, ⟨h.unscripted, ?_, ?_, ?_⟩, Nat.zero_le 1,
    modified, [], (List.append_nil _).symm, hdescribed, ?_⟩
  · rw [List.append_nil]
    exact hdescribed
  · rw [List.append_nil]
    exact h.numbered
  · rw [List.append_nil]
    exact h.apart
  · refine hkept.imp fun old new hnew hold => hnew.resolve_right ?_
    rintro ⟨rfl, -⟩
    exact hold hport

/-! ## Calls to the cloud -/

/-- Fetching and searching pages that are at hand does nothing. -/
theorem calm_findListener {γ : Type} {pick : Effect → Option γ} (port : Json)
    (pages : List Json) :
    (Client.findListener port (pages.map Run.pure) : Run Fleet (Option Json)).Calm pick := by
  induction pages with
  | nil => exact Run.calm_pure none
  | cons page rest ih =>
    refine (Run.calm_pure page).bind fun page => (Run.calm_read _).bind fun found? => ?_
    cases found? with
    | none => exact ih
    | some item => exact Run.calm_pure _

theorem calm_liveOf {γ : Type} {pick : Effect → Option γ} (found? : Option Json) :
    (Client.liveOf found? : Run Fleet _).Calm pick := by
  cases found? with
  | none => exact Run.calm_pure none
  | some item => exact (Run.calm_read _).bind fun _ => Run.calm_pure _

/-- Searching the pages that describe the listeners of a load balancer does nothing. -/
theorem calm_search {γ : Type} (pick : Effect → Option γ) (port : Json) (pages : List Json) :
    (Client.findListener port (pages.map Run.pure) >>= Client.liveOf : Run Fleet _).Calm pick :=
  (calm_findListener port pages).bind calm_liveOf

/-- Describing a listener changes nothing but what is pending. -/
theorem state_describe (fleet : Fleet) (loadBalancerArn port : Json) :
    ∃ pending, ((cloud.describe loadBalancerArn port).ending fleet).2 = { fleet with pending } := by
  rw [cloud, Client.describe_eq]
  rcases ending_send .describe [("LoadBalancerArn", loadBalancerArn)] fleet with
    ⟨reason, pending, hsend⟩ | hsend
  · have hcall : (client.describe [("LoadBalancerArn", loadBalancerArn)]).ending fleet = _ :=
      Run.ending_bind_of_error _ hsend
    exact ⟨pending, by rw [Run.ending_bind_of_error _ hcall]⟩
  · let pages := fleet.pages?.getD (fleet.pages loadBalancerArn)
    have hcall : (client.describe [("LoadBalancerArn", loadBalancerArn)]).ending fleet =
      (.ok (pages.map Run.pure), fleet) := Run.ending_bind_of_ok _ hsend
    refine ⟨fleet.pending, ?_⟩
    rw [Run.ending_bind_of_ok _ hcall]
    exact (calm_search some port pages).still fleet

/-- A create call either fails before it has an effect, or creates what it answers. -/
theorem ending_create (hs : fleet.Unscripted) (params : List (String × Json)) :
    (∃ reason pending, (client.create params).ending fleet =
      (.error reason, { fleet with pending })) ∨
    (client.create params).ending fleet =
      (.ok (answerWith (fleet.create params).2), (fleet.create params).1) := by
  rcases ending_send .create params fleet with ⟨reason, pending, hsend⟩ | hsend
  · exact .inl ⟨reason, pending, Run.ending_bind_of_error _ hsend⟩
  · have hend : (client.create params).ending fleet = _ := Run.ending_bind_of_ok _ hsend
    rw [hend]
    dsimp only [Run.ending]
    rw [hs.1]
    exact .inr rfl

/-- A modify call for a listener that is stored either fails before it has an effect, or modifies
    the listener and answers with it. -/
theorem ending_modify (hs : fleet.Unscripted) (params : List (String × Json))
    {found : List Json × Json}
    (h : modifyFirst (param params "ListenerArn") params fleet.listeners = some found) :
    (∃ reason pending, (client.modify params).ending fleet =
      (.error reason, { fleet with pending })) ∨
    (client.modify params).ending fleet =
      (.ok (answerWith found.2), { fleet with listeners := found.1 }) := by
  rcases ending_send .modify params fleet with ⟨reason, pending, hsend⟩ | hsend
  · exact .inl ⟨reason, pending, Run.ending_bind_of_error _ hsend⟩
  · have hend : (client.modify params).ending fleet = _ := Run.ending_bind_of_ok _ hsend
    rw [hend]
    dsimp only [Run.ending]
    rw [hs.1, h]
    exact .inr rfl

variable {loadBalancer : String} {config : ListenerConfig} {n : ℤ}

/-- Creating a listener on a free port fails before it has an effect, or keeps the fleet in
    order. What is created can always be read. -/
theorem grows_create (h : fleet.Registers cards) (ha : ∀ a ∈ config.defaultActions, a.Managed)
    (hp : config.port.IsInteger n)
    (hfree : ∀ item ∈ fleet.listeners, ¬OnPort (.str loadBalancer) config.port item) :
    (∃ reason pending, (cloud.create (.str loadBalancer) config).ending fleet =
      (.error reason, { fleet with pending })) ∨
    ∃ live added fleet', (cloud.create (.str loadBalancer) config).ending fleet =
        (.ok live, fleet') ∧
      Grows (.str loadBalancer) config.port cards added fleet.listeners fleet' := by
  have hend := Client.ending_create client (.str loadBalancer) config fleet
  dsimp only at hend
  rcases ending_create h.unscripted (("LoadBalancerArn", .str loadBalancer) :: config.toApi) with
    ⟨reason, pending, hcall⟩ | hcall
  · rw [hcall] at hend
    exact .inl ⟨reason, pending, hend⟩
  · obtain ⟨⟨live, hlive⟩, hgrows⟩ := registers_create h ha hp hfree
    rw [hcall] at hend
    dsimp only [Except.bind] at hend
    rw [Client.listenerOf_answerWith, hlive] at hend
    exact .inr ⟨live, _, _, hend, hgrows⟩

/-- Modifying the listener on a port fails before it has an effect, or keeps the fleet in order.
    What is modified can always be read. -/
theorem grows_modify (h : fleet.Registers cards) (ha : ∀ a ∈ config.defaultActions, a.Managed)
    (hp : config.port.IsInteger n) {item : Json} {live : Listener} (hm : item ∈ fleet.listeners)
    (hport : OnPort (.str loadBalancer) config.port item)
    (hlive : Listener.ofDocument item = .ok live) :
    (∃ reason pending, (cloud.modify live.arn config).ending fleet =
      (.error reason, { fleet with pending })) ∨
    ∃ answered added fleet', (cloud.modify live.arn config).ending fleet = (.ok answered, fleet') ∧
      Grows (.str loadBalancer) config.port cards added fleet.listeners fleet' := by
  have hend := Client.ending_modify client live.arn config fleet
  dsimp only at hend
  obtain ⟨modified, hmodified, ⟨answered, hanswered⟩, hgrows⟩ :=
    registers_modify h ha hp hm hport hlive
  rcases ending_modify h.unscripted (("ListenerArn", live.arn) :: config.toApi) hmodified with
    ⟨reason, pending, hcall⟩ | hcall
  · rw [hcall] at hend
    exact .inl ⟨reason, pending, hend⟩
  · rw [hcall] at hend
    dsimp only [Except.bind] at hend
    rw [Client.listenerOf_answerWith, hanswered] at hend
    exact .inr ⟨answered, [], _, hend, hgrows⟩

end Fleet

end AlbListener

import Mathlib.Data.List.Induction
import Mathlib.Data.List.TakeWhile
import AlbListener.Proofs.Event.Loss

/-!
# Ledgers of subscribers

A ledger gives each event that is published to a subscriber its `Fate`: it is kept, refused by a full
queue, or evicted from a full queue when the subscriber leaves. So no event is forgotten and none is
told twice.

Results:
* `Told.publish`, `Told.unsubscribe`, `Told.next`: what one step adds to the ledger.
* `told_run`: the ledger of a subscriber over any steps since it joined.
-/

namespace AlbListener

namespace Bus

variable {bus start : Bus} {name : String} {s : Subscription} {step : Step} {steps : List Step}

/-! ## What is seen of a subscriber -/

/-- The event that a subscriber gets, if it gets one. -/
def Received.event? : Received → Option Event
  | .event e => some e
  | _ => none

/-- What a subscriber gets in a step. -/
def takenBy (name : String) (bus : Bus) : Step → List Received
  | .next other => if other = name then ((bus.receive? name).map Prod.fst).toList else []
  | _ => []

/-- What waits for a subscriber. -/
def waitingFor (bus : Bus) (name : String) : List Item := (bus.queue? name).getD []

/-- The event that a step offers to a subscriber that is there, and whether its queue is full. -/
def offeredTo (name : String) (bus : Bus) : Step → List (Event × Bool)
  | .publish e =>
    match bus.subscription? name with
    | some s => if s.isOpen then [(e, isFull bus.limit s.queue.length)] else []
    | none => []
  | _ => []

/-- The event that is published in a step. -/
def Step.published? : Step → Option Event
  | .publish e => some e
  | _ => none

/-- Whether a subscriber leaves in a step. -/
def Step.leaves (name : String) : Step → Bool
  | .unsubscribe other => other == name
  | _ => false

/-- The events that are published before a subscriber leaves. -/
def publishedTo (name : String) (steps : List Step) : List Event :=
  (steps.takeWhile fun step => !step.leaves name).filterMap Step.published?

theorem filterMap_event?_map (events : List Event) :
    (events.map Received.event).filterMap Received.event? = events := by
  induction events with
  | nil => rfl
  | cons e rest ih =>
    have hhead : (Received.event e).event? = some e := rfl
    rw [List.map_cons, List.filterMap_cons_some hhead, ih]

theorem observe_concat {γ : Type} (see : Bus → Step → List γ) (bus : Bus) (steps : List Step)
    (step : Step) :
    observe see bus (steps ++ [step]) = observe see bus steps ++ see (bus.run steps) step := by
  rw [observe_append, observe, observe, List.append_nil]

theorem run_concat (bus : Bus) (steps : List Step) (step : Step) :
    bus.run (steps ++ [step]) = (bus.run steps).after step := by
  rw [run_append]
  rfl

theorem any_leaves_concat : (steps ++ [step]).any (Step.leaves name) =
    (steps.any (Step.leaves name) || step.leaves name) := by
  rw [List.any_append, List.any_cons, List.any_nil, Bool.or_false]

/-- Until a subscriber leaves, what is published is published to it. -/
theorem publishedTo_concat (h : steps.any (Step.leaves name) = false) :
    publishedTo name (steps ++ [step]) = publishedTo name steps ++ step.published?.toList := by
  have hall : steps.takeWhile (fun step => !step.leaves name) = steps := by
    rw [List.takeWhile_eq_self_iff]
    intro step hm
    rw [List.any_eq_false] at h
    simpa using h step hm
  rw [publishedTo, publishedTo, List.takeWhile_append, hall, if_pos rfl, List.filterMap_append]
  cases step with
  | unsubscribe other =>
    rw [List.takeWhile_cons]
    split_ifs <;> rfl
  | subscribe => rfl
  | publish => rfl
  | next => rfl

/-- After that it is not. -/
theorem publishedTo_concat_of_left (h : steps.any (Step.leaves name) = true) :
    publishedTo name (steps ++ [step]) = publishedTo name steps := by
  have hsome : (steps.takeWhile fun step => !step.leaves name).length ≠ steps.length := by
    intro hlength
    obtain ⟨step, hm, hleaves⟩ := List.any_eq_true.mp h
    have hall := (List.takeWhile_prefix (fun step : Step => !step.leaves name)).eq_of_length hlength
    rw [List.takeWhile_eq_self_iff] at hall
    exact absurd hleaves (by simpa using hall step hm)
  rw [publishedTo, publishedTo, List.takeWhile_append, if_neg hsome]

/-! ## Fates -/

/-- What becomes of an event that is published to a subscriber. -/
inductive Fate
  | kept
  | refused
  | evicted
deriving DecidableEq

/-- The events of a ledger with a fate, in order. -/
def withFate (fate : Fate) (ledger : List (Event × Fate)) : List Event :=
  (ledger.filter fun entry => entry.2 = fate).map Prod.fst

theorem withFate_append (fate : Fate) (first second : List (Event × Fate)) :
    withFate fate (first ++ second) = withFate fate first ++ withFate fate second := by
  rw [withFate, List.filter_append, List.map_append]
  rfl

theorem withFate_singleton (fate other : Fate) (e : Event) :
    withFate fate [(e, other)] = if other = fate then [e] else [] := by
  rw [withFate, List.filter_singleton]
  split_ifs <;> simp_all

theorem withFate_sublist (fate : Fate) (ledger : List (Event × Fate)) :
    (withFate fate ledger).Sublist (ledger.map Prod.fst) :=
  List.filter_sublist.map _

/-- Without losses a ledger keeps every event. -/
theorem withFate_kept_eq {ledger : List (Event × Fate)} (hr : withFate .refused ledger = [])
    (he : withFate .evicted ledger = []) : withFate .kept ledger = ledger.map Prod.fst := by
  rw [withFate, List.map_eq_nil_iff, List.filter_eq_nil_iff] at hr he
  rw [withFate, List.filter_eq_self.mpr]
  intro entry hm
  have hrefused := hr entry hm
  have hevicted := he entry hm
  cases hfate : entry.2 <;> simp_all

/-- An event that was kept can be lost after all; the rest of the ledger stays. -/
theorem exists_evict {ledger : List (Event × Fate)} {got rest : List Event} {e : Event}
    (hkept : withFate .kept ledger = got ++ e :: rest) (hevicted : withFate .evicted ledger = []) :
    ∃ ledger' : List (Event × Fate),
      ledger'.map (fun entry => (entry.1, decide (entry.2 = .refused))) =
          ledger.map (fun entry => (entry.1, decide (entry.2 = .refused))) ∧
        withFate .kept ledger' = got ++ rest ∧ withFate .refused ledger' = withFate .refused ledger ∧
        withFate .evicted ledger' = [e] := by
  obtain ⟨first, second, hledger, hgot, hrest⟩ := List.map_eq_append_iff.mp hkept
  obtain ⟨first', second', rfl, rfl, rfl⟩ := List.filter_eq_append_iff.mp hledger
  obtain ⟨entry, later, hsecond, hentry, hlater⟩ := List.map_eq_cons_iff.mp hrest
  obtain ⟨skipped, later', rfl, hskipped, hfate, rfl⟩ := List.filter_eq_cons_iff.mp hsecond
  obtain ⟨e', fate⟩ := entry
  obtain rfl : fate = .kept := by simpa using hfate
  obtain rfl : e' = e := hentry
  have hnone : withFate .kept skipped = [] := by
    rw [withFate, List.map_eq_nil_iff, List.filter_eq_nil_iff]
    exact hskipped
  have hgot' : withFate .kept first' = got := hgot
  have hrest' : withFate .kept later' = rest := hlater
  rw [List.append_cons _ _ later'] at *
  refine ⟨first' ++ (skipped ++ [(e', .evicted)] ++ later'), ?_, ?_, ?_, ?_⟩
  · simp
  · rw [withFate_append, withFate_append, withFate_append, withFate_singleton, hgot', hnone, hrest']
    rfl
  · simp only [withFate_append, withFate_singleton]
    rfl
  · simp only [withFate_append, List.append_eq_nil_iff] at hevicted
    rw [withFate_append, withFate_append, withFate_append, withFate_singleton, hevicted.1,
      hevicted.2.1.1, hevicted.2.2]
    rfl

/-! ## Ledgers -/

/-- What some steps have made of a subscriber that joined just before them: its subscription, the
    events that it has got, and the ledger of those that were published to it. -/
structure Told (name : String) (start : Bus) (steps : List Step) (s : Subscription)
    (got : List Event) (ledger : List (Event × Fate)) : Prop where
  there : (start.run steps).subscription? name = some s
  isOpen : s.isOpen = !steps.any (Step.leaves name)
  taken : observe (takenBy name) start steps =
    got.map .event ++ if s.isOpen = false ∧ s.queue = [] then [.ended] else []
  published : ledger.map Prod.fst = publishedTo name steps
  offered : ledger.map (fun entry => (entry.1, decide (entry.2 = .refused))) =
    observe (offeredTo name) start steps
  kept : withFate .kept ledger = got ++ s.queue.filterMap Item.event?
  evicted : withFate .evicted ledger = observe (evictedFrom name) start steps
  unspoilt : s.isOpen = true → withFate .evicted ledger = []
  single : (withFate .evicted ledger).length ≤ 1
  warned : (observe reported start steps).filter (concerns name) =
    (withFate .refused ledger).map (droppedEvent · name) ++
      (withFate .evicted ledger).map fun _ => droppedOldest name

theorem told_nil (h : start.subscription? name = some ⟨name, true, []⟩) :
    Told name start [] ⟨name, true, []⟩ [] [] where
  there := h
  isOpen := rfl
  taken := rfl
  published := rfl
  offered := rfl
  kept := rfl
  evicted := rfl
  unspoilt := fun _ => rfl
  single := Nat.zero_le _
  warned := rfl

namespace Told

variable {got : List Event} {ledger : List (Event × Fate)}

theorem any_leaves (h : Told name start steps s got ledger) (hopen : s.isOpen = true) :
    steps.any (Step.leaves name) = false := by
  have := h.isOpen
  rw [hopen] at this
  simpa using this.symm

theorem any_leaves_of_left (h : Told name start steps s got ledger) (hopen : s.isOpen = false) :
    steps.any (Step.leaves name) = true := by
  have := h.isOpen
  rw [hopen] at this
  simpa using this.symm

/-- A step that has nothing to do with a subscriber, or comes too late for it, adds nothing. -/
theorem idle (h : Told name start steps s got ledger)
    (hthere : ((start.run steps).after step).subscription? name = some s)
    (htaken : (start.run steps).takenBy name step = [])
    (hoffered : (start.run steps).offeredTo name step = [])
    (hevicted : (start.run steps).evictedFrom name step = [])
    (hreported : ((start.run steps).reported step).filter (concerns name) = [])
    (hleaves : step.leaves name = true → s.isOpen = false)
    (hpublished : s.isOpen = true → step.published? = none) :
    Told name start (steps ++ [step]) s got ledger where
  there := by rw [run_concat, hthere]
  isOpen := by
    rw [any_leaves_concat, Bool.not_or, ← h.isOpen]
    cases hl : step.leaves name
    · rw [Bool.not_false, Bool.and_true]
    · rw [hleaves hl, Bool.false_and]
  taken := by rw [observe_concat, htaken, List.append_nil, h.taken]
  published := by
    cases hopen : s.isOpen
    · rw [publishedTo_concat_of_left (h.any_leaves_of_left hopen), h.published]
    · rw [publishedTo_concat (h.any_leaves hopen), hpublished hopen, Option.toList_none,
        List.append_nil, h.published]
  offered := by rw [observe_concat, hoffered, List.append_nil, h.offered]
  kept := h.kept
  evicted := by rw [observe_concat, hevicted, List.append_nil, h.evicted]
  unspoilt := h.unspoilt
  single := h.single
  warned := by rw [observe_concat, List.filter_append, hreported, List.append_nil, h.warned]

/-- What is reported of a step in which nothing is lost does not concern a subscriber. -/
theorem filter_reported_eq_nil (hin : (start.run steps).InOrder)
    (hrefused : (start.run steps).refusedBy name step = [])
    (hevicted : (start.run steps).evictedFrom name step = []) :
    ((start.run steps).reported step).filter (concerns name) = [] := by
  rw [filter_reported hin, hrefused, hevicted]
  rfl

theorem subscribe (h : Told name start steps s got ledger) (hin : (start.run steps).InOrder)
    (other : String) : Told name start (steps ++ [.subscribe other]) s got ledger :=
  h.idle (subscription?_subscribe h.there) rfl rfl rfl (filter_reported_eq_nil hin rfl rfl) nofun
    fun _ => rfl

/-- The step lemma of publishing: an event that finds room is kept, any other is refused. -/
theorem publish (h : Told name start steps s got ledger) (hin : (start.run steps).InOrder)
    (e : Event) : ∃ s' ledger', Told name start (steps ++ [.publish e]) s' got ledger' := by
  have hthere := subscription?_publish e h.there
  cases hopen : s.isOpen with
  | false =>
    have hs : (deliver (start.run steps).limit e s).1 = s := by
      unfold deliver
      rw [hopen]
      rfl
    rw [hs] at hthere
    have hnone : (start.run steps).isFullFor name = false := by
      rw [isFullFor_eq h.there, hopen, Bool.false_and]
    refine ⟨s, ledger, h.idle hthere rfl ?_ rfl (filter_reported_eq_nil hin ?_ rfl) nofun ?_⟩
    · rw [offeredTo, h.there]
      simp [hopen]
    · rw [refusedBy, hnone]
      rfl
    · exact fun hopen' => by cases hopen.symm.trans hopen'
  | true =>
    have hleaves := h.any_leaves hopen
    have hofferedTo : (start.run steps).offeredTo name (.publish e) =
        [(e, isFull (start.run steps).limit s.queue.length)] := by
      rw [offeredTo, h.there]
      simp [hopen]
    have hrefusedBy : (start.run steps).refusedBy name (.publish e) =
        if isFull (start.run steps).limit s.queue.length = true then [e] else [] := by
      rw [refusedBy, isFullFor_eq h.there, hopen, Bool.true_and]
    have hevictedFrom : (start.run steps).evictedFrom name (.publish e) = [] := rfl
    have hreport : ((start.run steps).reported (.publish e)).filter (concerns name) =
        ((start.run steps).refusedBy name (.publish e)).map (droppedEvent · name) := by
      rw [filter_reported hin, hevictedFrom]
      exact List.append_nil _
    have hopen' : (deliver (start.run steps).limit e s).1.isOpen = true :=
      (deliver_isOpen _ _ _).trans hopen
    refine ⟨(deliver (start.run steps).limit e s).1, ledger ++ [(e,
      if isFull (start.run steps).limit s.queue.length = true then .refused else .kept)], ?_⟩
    exact {
      there := by rw [run_concat, hthere]
      isOpen := by rw [hopen', any_leaves_concat, hleaves]; rfl
      taken := by
        rw [observe_concat, h.taken, hopen, hopen']
        simp [takenBy]
      published := by
        rw [publishedTo_concat hleaves, ← h.published, List.map_append]
        rfl
      offered := by
        rw [observe_concat, hofferedTo, ← h.offered, List.map_append]
        cases isFull (start.run steps).limit s.queue.length <;> rfl
      kept := by
        rw [withFate_append, withFate_singleton, h.kept]
        cases hfull : isFull (start.run steps).limit s.queue.length with
        | true =>
          rw [deliver_of_full e hfull]
          exact List.append_nil _
        | false =>
          rw [deliver_of_room e hopen hfull, List.filterMap_append, List.append_assoc]
          rfl
      evicted := by
        rw [observe_concat, hevictedFrom, ← h.evicted, withFate_append, withFate_singleton]
        cases isFull (start.run steps).limit s.queue.length <;> rfl
      unspoilt := fun _ => by
        rw [withFate_append, withFate_singleton, h.unspoilt hopen]
        cases isFull (start.run steps).limit s.queue.length <;> rfl
      single := by
        rw [withFate_append, withFate_singleton, h.unspoilt hopen]
        cases isFull (start.run steps).limit s.queue.length <;> simp
      warned := by
        rw [observe_concat, List.filter_append, hreport, hrefusedBy, h.warned, withFate_append,
          withFate_append, withFate_singleton, withFate_singleton, h.unspoilt hopen]
        cases isFull (start.run steps).limit s.queue.length <;> simp }

/-- When a subscriber leaves, its ledger changes by what its full queue loses. -/
theorem leave (h : Told name start steps s got ledger) (hin : (start.run steps).InOrder)
    (hopen : s.isOpen = true) {ledger' : List (Event × Fate)}
    (hoffered : ledger'.map (fun entry => (entry.1, decide (entry.2 = .refused))) =
      ledger.map (fun entry => (entry.1, decide (entry.2 = .refused))))
    (hkept : withFate .kept ledger' =
      got ++ (close (start.run steps).limit s).1.queue.filterMap Item.event?)
    (hrefused : withFate .refused ledger' = withFate .refused ledger)
    (hevicted : withFate .evicted ledger' =
      (start.run steps).evictedFrom name (.unsubscribe name))
    (hsingle : (withFate .evicted ledger').length ≤ 1) :
    Told name start (steps ++ [.unsubscribe name]) (close (start.run steps).limit s).1 got
      ledger' := by
  have hclose : (close (start.run steps).limit s).1.isOpen = false := close_isOpen _ _
  have hleaves : Step.leaves name (.unsubscribe name) = true := beq_self_eq_true name
  have hrefusedBy : (start.run steps).refusedBy name (.unsubscribe name) = [] := rfl
  have hqueue : (close (start.run steps).limit s).1.queue ≠ [] := by
    unfold close
    rw [hopen]
    split_ifs <;> simp_all
  exact {
    there := by rw [run_concat, subscription?_unsubscribe name h.there, if_pos rfl]
    isOpen := by rw [hclose, any_leaves_concat, hleaves, Bool.or_true, Bool.not_true]
    taken := by
      rw [observe_concat, h.taken, if_neg fun hnone => Bool.false_ne_true (hnone.1.symm.trans hopen),
        if_neg fun hnone => hqueue hnone.2]
      simp [takenBy]
    published := by
      have hfst := congrArg (List.map Prod.fst) hoffered
      rw [List.map_map, List.map_map] at hfst
      rw [publishedTo_concat (h.any_leaves hopen), ← h.published]
      exact hfst.trans (List.append_nil _).symm
    offered := by
      rw [observe_concat, hoffered, h.offered]
      exact (List.append_nil _).symm
    kept := hkept
    evicted := by rw [hevicted, observe_concat, ← h.evicted, h.unspoilt hopen, List.nil_append]
    unspoilt := fun hopen' => absurd (hclose.symm.trans hopen') Bool.false_ne_true
    single := hsingle
    warned := by
      rw [observe_concat, List.filter_append, filter_reported hin, hrefusedBy, h.warned,
        h.unspoilt hopen, hrefused, hevicted]
      simp }

/-- The step lemma of leaving: a full queue loses its oldest event. -/
theorem unsubscribe (h : Told name start steps s got ledger) (hin : (start.run steps).InOrder)
    (other : String) :
    ∃ s' ledger', Told name start (steps ++ [.unsubscribe other]) s' got ledger' := by
  by_cases hidle : other = name ∧ s.isOpen = true
  · obtain ⟨rfl, hopen⟩ := hidle
    cases hfull : isFull (start.run steps).limit s.queue.length with
    | true =>
      have hfullFor : (start.run steps).isFullFor other = true := by
        rw [isFullFor_eq h.there, hopen, hfull, Bool.and_self]
      obtain ⟨e, rest, hevents, -⟩ := exists_oldest hin h.there hfullFor
      have hevictedFrom : (start.run steps).evictedFrom other (.unsubscribe other) = [e] := by
        rw [evictedFrom, if_pos ⟨rfl, hfullFor⟩, queue?_eq, h.there, Option.map_some,
          Option.getD_some, hevents]
        rfl
      have hkept : withFate .kept ledger = got ++ e :: rest := by
        rw [h.kept, hevents, List.filterMap_cons_some (show (Item.event e).event? = some e from rfl),
          Item.filterMap_event?_map]
      have hqueue : (close (start.run steps).limit s).1.queue.filterMap Item.event? = rest := by
        rw [close, hopen, if_neg (by decide), if_pos hfull, hevents, List.drop_one, List.tail_cons,
          List.filterMap_append, Item.filterMap_event?_map]
        exact List.append_nil rest
      obtain ⟨ledger', hoffered, hkept', hrefused, hevicted⟩ :=
        exists_evict hkept (h.unspoilt hopen)
      refine ⟨_, ledger', h.leave hin hopen hoffered (by rw [hkept', hqueue]) hrefused
        (hevicted.trans hevictedFrom.symm) ?_⟩
      rw [hevicted]
      rfl
    | false =>
      have hfullFor : (start.run steps).isFullFor other = false := by
        rw [isFullFor_eq h.there, hfull, Bool.and_false]
      have hevictedFrom : (start.run steps).evictedFrom other (.unsubscribe other) = [] := by
        rw [evictedFrom, if_neg fun h => Bool.false_ne_true (hfullFor.symm.trans h.2)]
      have hqueue : (close (start.run steps).limit s).1.queue = s.queue ++ [.finish] := by
        rw [close, hopen, if_neg (by decide), if_neg (by rw [hfull]; decide)]
      refine ⟨_, ledger, h.leave hin hopen rfl ?_ rfl
        ((h.unspoilt hopen).trans hevictedFrom.symm) h.single⟩
      rw [h.kept, hqueue, List.filterMap_append]
      exact (congrArg (got ++ ·) (List.append_nil _)).symm
  · have hthere := subscription?_unsubscribe other h.there
    have hsame : (if other = name then (close (start.run steps).limit s).1 else s) = s := by
      split_ifs with hname
      · unfold close
        rw [if_pos (by simpa using fun hopen => hidle ⟨hname, hopen⟩)]
      · rfl
    have hevictedFrom : (start.run steps).evictedFrom name (.unsubscribe other) = [] := by
      rw [evictedFrom, if_neg]
      rintro ⟨rfl, hfull⟩
      rw [isFullFor_eq h.there, Bool.and_eq_true] at hfull
      exact hidle ⟨rfl, hfull.1⟩
    rw [hsame] at hthere
    refine ⟨s, ledger, h.idle hthere rfl rfl hevictedFrom
      (filter_reported_eq_nil hin rfl hevictedFrom) (fun hleaves => ?_) fun _ => rfl⟩
    rw [← Bool.not_eq_true]
    exact fun hopen => hidle ⟨beq_iff_eq.mp hleaves, hopen⟩

/-- When a subscriber takes an item, the ledger stays. -/
theorem takes (h : Told name start steps s got ledger) (hin : (start.run steps).InOrder)
    (hnonempty : s.queue ≠ []) {got' : List Event}
    (hgot : got.map .event ++ [(take s.queue).1] =
      got'.map .event ++ if s.isOpen = false ∧ s.queue.drop 1 = [] then [.ended] else [])
    (hkept : got ++ s.queue.filterMap Item.event? =
      got' ++ (s.queue.drop 1).filterMap Item.event?) :
    Told name start (steps ++ [.next name]) { s with queue := s.queue.drop 1 } got' ledger where
  there := by rw [run_concat, subscription?_next name h.there, if_pos rfl]
  isOpen := by
    rw [any_leaves_concat, h.isOpen]
    exact congrArg _ (Bool.or_false _).symm
  taken := by
    rw [← hgot, observe_concat, h.taken, if_neg fun hnone => hnonempty hnone.2, List.append_nil,
      takenBy, if_pos rfl, receive?, queue?_eq, h.there]
    rfl
  published := by
    cases hopen : s.isOpen
    · rw [publishedTo_concat_of_left (h.any_leaves_of_left hopen), h.published]
    · rw [publishedTo_concat (h.any_leaves hopen), h.published]
      exact (List.append_nil _).symm
  offered := by
    rw [observe_concat, h.offered]
    exact (List.append_nil _).symm
  kept := h.kept.trans hkept
  evicted := by
    rw [observe_concat, h.evicted]
    exact (List.append_nil _).symm
  unspoilt := h.unspoilt
  single := h.single
  warned := by
    rw [observe_concat, List.filter_append, filter_reported_eq_nil hin rfl rfl, List.append_nil,
      h.warned]

/-- The step lemma of taking an item: an event is got, and behind the mark of the end is nothing. -/
theorem next (h : Told name start steps s got ledger) (hin : (start.run steps).InOrder)
    {other : String} (he : (start.run steps).Enabled (.next other)) :
    ∃ s' got', Told name start (steps ++ [.next other]) s' got' ledger := by
  by_cases hname : other = name
  · subst hname
    obtain ⟨s', hs', hnonempty⟩ := he
    obtain rfl : s = s' := Option.some_inj.mp (h.there.symm.trans hs')
    have horderly := hin.orderly s (mem_of_subscription? h.there)
    cases hqueue : s.queue with
    | nil => exact absurd hqueue hnonempty
    | cons item rest =>
      cases item with
      | event e =>
        -- behind an event the mark of the end still waits
        have hmore : ¬(s.isOpen = false ∧ s.queue.drop 1 = []) := by
          rintro ⟨hclosed, hnone⟩
          rcases horderly.finished hclosed with h | ⟨events, h⟩
          · exact hnonempty h
          · cases events <;> simp_all
        refine ⟨_, got ++ [e], h.takes hin hnonempty ?_ ?_⟩
        · rw [if_neg hmore, hqueue, List.map_append, List.append_nil]
          rfl
        · rw [hqueue, List.append_assoc]
          rfl
      | finish =>
        -- nothing comes behind the mark of the end
        have hlast : s.isOpen = false ∧ s.queue.drop 1 = [] := by
          cases hopen : s.isOpen with
          | true =>
            obtain ⟨events, h⟩ := horderly.events hopen
            cases events <;> simp_all
          | false =>
            rcases horderly.finished hopen with h | ⟨events, h⟩
            · exact absurd h hnonempty
            · cases events <;> simp_all
        refine ⟨_, got, h.takes hin hnonempty ?_ ?_⟩
        · rw [if_pos hlast, hqueue]
          rfl
        · rw [hqueue]
          rfl
  · have hthere := subscription?_next other h.there
    rw [if_neg hname] at hthere
    exact ⟨s, got, h.idle hthere (by rw [takenBy, if_neg hname]) rfl rfl
      (filter_reported_eq_nil hin rfl rfl) nofun fun _ => rfl⟩

end Told

/-- The step lemma of ledgers. -/
theorem Told.further {got : List Event} {ledger : List (Event × Fate)}
    (h : Told name start steps s got ledger) (hin : (start.run steps).InOrder) {next : Step}
    (he : (start.run steps).Enabled next) :
    ∃ s' got' ledger', Told name start (steps ++ [next]) s' got' ledger' := by
  cases next with
  | subscribe other => exact ⟨s, got, ledger, h.subscribe hin other⟩
  | publish e =>
    obtain ⟨s', ledger', h'⟩ := h.publish hin e
    exact ⟨s', got, ledger', h'⟩
  | unsubscribe other =>
    obtain ⟨s', ledger', h'⟩ := h.unsubscribe hin other
    exact ⟨s', got, ledger', h'⟩
  | next other =>
    obtain ⟨s', got', h'⟩ := h.next hin he
    exact ⟨s', got', ledger, h'⟩

/-- Over any steps since it joined, a subscriber has a ledger. -/
theorem told_run (hstart : start.InOrder) (hs : start.subscription? name = some ⟨name, true, []⟩)
    (hp : start.Possible steps) : ∃ s got ledger, Told name start steps s got ledger := by
  induction steps using List.reverseRecOn with
  | nil => exact ⟨_, [], [], told_nil hs⟩
  | append_singleton steps step ih =>
    obtain ⟨hfirst, hlast⟩ := possible_append.mp hp
    obtain ⟨s, got, ledger, h⟩ := ih hfirst
    exact h.further (hstart.run hfirst) hlast.1

end Bus

end AlbListener

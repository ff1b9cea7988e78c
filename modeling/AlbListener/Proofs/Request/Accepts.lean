import AlbListener.Proofs.Numeral
import AlbListener.Proofs.Request.Grammar

/-!
# When a request is loaded

A document that has the form of a request is loaded, with one exception: a port of a service
may be named by a text of digits that is no numeral, because not all of them are decimal or because
there are too many. Loading then fails with the fault of reading such a text as an integer.

Results:
* `exists_member`, `exists_listenerPort`: what a check says that reading does not fail.
* `Trips.bind`: steps one after the other fail only at odd digits.
* `load_iff`: when a document is loaded, and how loading fails.
-/

namespace AlbListener

open Text (OddDigits)

/-! ## Steps that fail at odd digits -/

/-- A step fails exactly if one of some texts has odd digits, and then as reading such a text as
    an integer does. -/
structure Trips {ε α : Type} (wrap : Fault → ε) (texts : String → Prop)
    (step : Except ε α) : Prop where
  ok_iff : (∃ a, step = .ok a) ↔ ∀ s, texts s → ¬OddDigits s
  of_error : ∀ e, step = .error e →
    ∃ s, texts s ∧ OddDigits s ∧ e = wrap (.invalid (.ofNumeral 10 s))

namespace Trips

variable {ε α β : Type} {wrap : Fault → ε} {texts : String → Prop}

theorem of_ok {step : Except ε α} {a : α} (h : step = .ok a) :
    Trips wrap (fun _ => False) step where
  ok_iff := iff_of_true ⟨a, h⟩ fun _ => False.elim
  of_error := fun e he => by cases h.symm.trans he

theorem congr {more : String → Prop} {step : Except ε α} (h : Trips wrap texts step)
    (ht : ∀ s, texts s ↔ more s) : Trips wrap more step := (funext fun s => propext (ht s)) ▸ h

theorem bind {step : Except ε α} {next : α → Except ε β} (h : Trips wrap texts step)
    (more : String → Prop) (hn : ∀ a, step = .ok a → Trips wrap more (next a)) :
    Trips wrap (fun s => texts s ∨ more s) (step >>= next) := by
  cases hstep : step with
  | error e =>
    obtain ⟨s, hs, hodd, he⟩ := h.of_error e hstep
    refine ⟨iff_of_false (fun ⟨b, hb⟩ => by cases hb) fun hall => hall s (.inl hs) hodd, ?_⟩
    rintro _ ⟨⟩
    exact ⟨s, .inl hs, hodd, he⟩
  | ok a =>
    have hfirst := h.ok_iff.mp ⟨a, hstep⟩
    have hnext := hn a hstep
    refine ⟨hnext.ok_iff.trans ⟨fun hall s => ?_, fun hall s hs => hall s (.inr hs)⟩, ?_⟩
    · rintro (hs | hs)
      · exact hfirst s hs
      · exact hall s hs
    · intro e he
      obtain ⟨s, hs, hodd⟩ := hnext.of_error e he
      exact ⟨s, .inr hs, hodd⟩

/-- A step that does not fail leaves it to those that follow. -/
theorem bind_ok {step : Except ε α} {next : α → Except ε β} {a : α} (h : step = .ok a)
    (hn : Trips wrap texts (next a)) : Trips wrap texts (step >>= next) := by
  rwa [bind_of_eq_ok h]

theorem map {step : Except ε α} (h : Trips wrap texts step) (f : α → β) :
    Trips wrap texts (f <$> step) :=
  (h.bind _ fun a _ => of_ok (a := f a) rfl).congr fun s => iff_of_eq (or_false (texts s))

theorem mapError {step : Except Fault α} (h : Trips id texts step) (wrap : Fault → ε) :
    Trips wrap texts (step.mapError wrap) where
  ok_iff := by
    simp only [mapError_eq_ok_iff]
    exact h.ok_iff
  of_error := fun e he => by
    obtain ⟨fault, hfault, rfl⟩ := mapError_eq_error_iff.mp he
    obtain ⟨s, hs, hodd, rfl⟩ := h.of_error fault hfault
    exact ⟨s, hs, hodd, rfl⟩

end Trips

namespace Run

variable {σ α β : Type} {texts : String → Prop} {s : σ}

/-- How a run ends trips. -/
def Trips (run : Run σ α) (texts : String → Prop) (s : σ) : Prop :=
  AlbListener.Trips Stop.ofFault texts (run.ending s).1

theorem trips_read {step : Except Fault α} (h : AlbListener.Trips id texts step) :
    (read step : Run σ α).Trips texts s := by
  rw [Trips, ending_read]
  exact h.mapError _

theorem Trips.bind {first : Run σ α} {next : α → Run σ β} (h : first.Trips texts s)
    (more : String → Prop) (hn : ∀ a s', first.ending s = (.ok a, s') → (next a).Trips more s') :
    (first >>= next).Trips (fun t => texts t ∨ more t) s := by
  have hend : ((first >>= next).ending s).1 =
      (first.ending s).1 >>= fun a => ((next a).ending (first.ending s).2).1 := by
    rcases hfirst : first.ending s with ⟨reason | a, s'⟩
    · rw [ending_bind_of_error _ hfirst]
      rfl
    · rw [ending_bind_of_ok _ hfirst]
      rfl
  rw [Trips, hend]
  exact AlbListener.Trips.bind h more fun a ha => hn a _ (Prod.ext ha rfl)

/-- A run that goes on leaves it to those that follow. -/
theorem Trips.bind_ok {first : Run σ α} {next : α → Run σ β} {a : α} {s' : σ}
    (h : first.ending s = (.ok a, s')) (hn : (next a).Trips texts s') :
    (first >>= next).Trips texts s := by
  rwa [Trips, ending_bind_of_ok _ h]

theorem ending_read_of_ok {step : Except Fault α} {a : α} (h : step = .ok a) (s : σ) :
    (read step).ending s = (.ok a, s) := ending_read_eq_ok_iff.mpr ⟨h, rfl⟩

end Run

/-! ## Members that are there -/

namespace Check

variable {value found : Json} {name : String} {names : List String}

theorem of_object (h : ofForm [.object] value = []) : ∃ members, value = .obj members :=
  of_isOf_object (isOf_of_ofForm h)

/-- A required member is there. -/
theorem exists_member (ho : ofForm [.object] value = []) (h : required names value = [])
    (name : String) (hm : name ∈ names) : ∃ found, value.member name = .ok found := by
  obtain ⟨members, rfl⟩ := of_object ho
  obtain ⟨found, hfound⟩ := Option.isSome_iff_exists.mp (required_eq_nil_iff.mp h name hm)
  exact ⟨found, Json.member_obj hfound⟩

/-- A member that may be missing can be looked up. -/
theorem exists_getD (ho : ofForm [.object] value = []) (name : String) (default : Json) :
    ∃ found, value.getD name default = .ok found := by
  obtain ⟨members, rfl⟩ := of_object ho
  exact ⟨_, Json.getD_obj ..⟩

/-- What passes the check of a listener's port is read. -/
theorem exists_listenerPort (h : Check.listenerPort value = []) :
    ∃ port scheme listenerPort, value.member "port" = .ok port ∧
      value.member "scheme" = .ok scheme ∧
      ListenerPort.ofJson port scheme = .ok listenerPort := by
  obtain ⟨⟨port, hp, n, hn, hbounds⟩, scheme, hs, hscheme⟩ := listenerPort_eq_nil_iff.mp h
  have hrange : portInRange port = true := by
    rw [portInRange, hn.number?_eq]
    exact portInRange_int.mpr hbounds
  obtain ⟨protocol, hprotocol⟩ : ∃ protocol, Protocol.ofJson scheme = .ok protocol := by
    rcases hscheme with rfl | rfl
    · exact ⟨.http, rfl⟩
    · exact ⟨.https, rfl⟩
  refine ⟨port, scheme, ⟨port, protocol, hrange⟩, Json.member_obj hp, Json.member_obj hs, ?_⟩
  rw [ListenerPort.ofJson, hn.number?_eq]
  dsimp only
  rw [dif_pos hrange, hprotocol]
  rfl

end Check

namespace Backend

theorem trips_portOf (value : Json) :
    Trips id (fun s => value = .str s) (portOf value) := by
  have hother {port : Json} (h : portOf value = .ok port)
      (hs : ∀ s, value = .str s → ¬OddDigits s) :
      Trips id (fun s => value = .str s) (portOf value) :=
    ⟨iff_of_true ⟨port, h⟩ hs, fun e he => by cases h.symm.trans he⟩
  cases value with
  | str text =>
    by_cases hdigits : Text.allDigits text = true
    · cases hread : Text.readInt? text with
      | none =>
        have hport : portOf (.str text) = .error (.invalid (.ofNumeral 10 text)) := by
          rw [portOf, if_pos hdigits, Json.toInteger, hread]
          rfl
        have hodd : OddDigits text := (Text.readInt?_eq_none_iff hdigits).mp hread
        constructor
        · refine iff_of_false ?_ fun h => h text rfl hodd
          rintro ⟨port, h⟩
          cases hport.symm.trans h
        · intro e he
          cases hport.symm.trans he
          exact ⟨text, rfl, hodd, rfl⟩
      | some n =>
        have hport : portOf (.str text) = .ok (.int n) := by
          rw [portOf, if_pos hdigits, Json.toInteger, hread]
          rfl
        refine hother hport fun s hs hodd => ?_
        cases hs
        cases ((Text.readInt?_eq_none_iff hdigits).mpr hodd).symm.trans hread
    · refine hother (if_neg hdigits) fun s hs hodd => ?_
      cases hs
      exact hdigits hodd.1
  | _ => exact hother rfl fun s h => by cases h

/-- Reading a backend that has its members trips over its port only. -/
theorem trips_ofDocument {data name port : Json} (hn : data.member "serviceName" = .ok name)
    (hp : data.member "servicePort" = .ok port) :
    Trips id (fun s => data.member "servicePort" = .ok (.str s)) (ofDocument data) := by
  rw [ofDocument, bind_of_eq_ok hp, hn]
  refine ((trips_portOf port).bind _ fun port' _ =>
    .of_ok (a := ⟨name, port'⟩) rfl).congr fun s => ?_
  rw [or_false, hp, Except.ok.injEq]

end Backend

/-! ## Ingresses -/

namespace Check

variable {value : Json}

theorem isTruthy_of_member {found : Json} {name : String} (h : value.member name = .ok found) :
    value.isTruthy = true := by
  cases value with
  | obj members =>
    cases members with
    | nil => cases h
    | cons => rfl
  | _ => cases h

/-- What is looked up is the member, or the default if there is none. -/
theorem member_of_getD {found default : Json} {name : String} (ho : ofForm [.object] value = [])
    (h : value.getD name default = .ok found) :
    (found = default ∧ ∀ other, value.member name ≠ .ok other) ∨
      value.member name = .ok found := by
  obtain ⟨members, rfl⟩ := of_object ho
  rw [Json.getD_obj] at h
  cases hget : Entries.get? members name with
  | none =>
    rw [hget] at h
    refine .inl ⟨(Except.ok.inj h).symm, fun other hother => ?_⟩
    cases hget.symm.trans (Json.member_obj_eq_ok_iff.mp hother)
  | some value =>
    rw [hget] at h
    cases h
    exact .inr (Json.member_obj hget)

theorem exists_rules {members : List (String × Json)}
    (h : property "rules" (ofForm [.array]) (Json.obj members) = []) :
    ∃ found rules, (Json.obj members).getD "rules" .null = .ok found ∧
      (found.orElse (.arr [])).elements = .ok rules := by
  rw [Json.getD_obj]
  cases hget : Entries.get? members "rules" with
  | none => exact ⟨.null, [], rfl, rfl⟩
  | some found =>
    obtain ⟨elements, rfl⟩ := of_isOf_array (isOf_of_ofForm (property_obj h hget))
    exact ⟨.arr elements, elements, rfl, by rw [Json.orElse_arr_nil]; rfl⟩

end Check

/-- Reading an ingress trips over the port of its default backend only. -/
theorem Ingress.trips_ofDocument {data : Json} (h : Check.ingress data = []) :
    Trips id (fun s => ∃ spec backend, data.member "spec" = .ok spec ∧
      spec.member "backend" = .ok backend ∧ backend.member "servicePort" = .ok (.str s))
      (Ingress.ofDocument data) := by
  simp only [Check.ingress, Check.all_eq_nil_iff, List.forall_mem_cons] at h
  obtain ⟨ho, hrequired, -, -, -, hspec, -⟩ := h
  obtain ⟨name, hname⟩ := Check.exists_member ho hrequired "name" (by decide)
  obtain ⟨namespaceName, hnamespace⟩ := Check.exists_getD ho "namespace" (.str "default")
  obtain ⟨spec, hs⟩ := Check.exists_getD ho "spec" .null
  rw [Ingress.ofDocument, bind_of_eq_ok hs]
  obtain ⟨rfl, hnone⟩ | hmember := Check.member_of_getD ho hs
  · dsimp only
    rw [Json.orElse_null, bind_of_eq_ok (Json.getD_obj ..), bind_of_eq_ok hname,
      bind_of_eq_ok hnamespace]
    refine (Trips.of_ok rfl).congr fun s => iff_of_false id ?_
    rintro ⟨other, -, hother, -⟩
    exact hnone other hother
  · have hchecked := Check.check_of_member hspec hmember
    simp only [Check.all_eq_nil_iff, List.forall_mem_cons] at hchecked
    obtain ⟨hform, hbackend, hrules, -⟩ := hchecked
    obtain ⟨members, rfl⟩ := Check.of_object hform
    obtain ⟨found, rules, hfound, helements⟩ := Check.exists_rules hrules
    obtain ⟨backend, hb⟩ := Check.exists_getD hform "backend" .null
    dsimp only
    rw [Json.orElse_obj_nil, bind_of_eq_ok hb, bind_of_eq_ok hname, bind_of_eq_ok hnamespace,
      hfound]
    obtain ⟨rfl, hnone⟩ | hgiven := Check.member_of_getD hform hb
    · rw [Json.isTruthy_null, if_neg Bool.false_ne_true, pure_bind, bind_of_eq_ok rfl,
        bind_of_eq_ok helements]
      refine (Trips.of_ok rfl).congr fun s => iff_of_false id ?_
      rintro ⟨spec, other, hsame, hother, -⟩
      cases hmember.symm.trans hsame
      exact hnone other hother
    · have hchecked := Check.check_of_member hbackend hgiven
      simp only [Check.backend, Check.all_eq_nil_iff, List.forall_mem_cons] at hchecked
      obtain ⟨hobject, hnames, -⟩ := hchecked
      obtain ⟨service, hservice⟩ :=
        Check.exists_member hobject hnames "serviceName" (by decide)
      obtain ⟨port, hport⟩ :=
        Check.exists_member hobject hnames "servicePort" (by decide)
      rw [if_pos (Check.isTruthy_of_member hport)]
      refine (((Backend.trips_ofDocument hservice hport).map some).bind (fun _ => False)
        fun backend? _ => .of_ok (a := ⟨name, namespaceName, backend?, rules⟩) ?_).congr fun s => ?_
      · rw [bind_of_eq_ok rfl, bind_of_eq_ok helements]
        rfl
      · rw [or_false]
        refine ⟨fun hs => ⟨_, backend, hmember, hgiven, hs⟩, ?_⟩
        rintro ⟨spec, other, hsame, hother, hs⟩
        cases hmember.symm.trans hsame
        cases hgiven.symm.trans hother
        exact hs

/-! ## Requests -/

namespace Request

variable {σ : Type}

/-- A value that a document gives for a port of a service: in a target group, or in the default
    backend. -/
inductive NamesPort (document : Json) : Json → Prop
  | targetGroup {entries : List Json} {entry port : Json}
    (hg : document.member "targetGroups" = .ok (.arr entries)) (hm : entry ∈ entries)
    (hp : entry.member "servicePort" = .ok port) : NamesPort document port
  | backend {ingress spec backend port : Json} (hi : document.member "ingress" = .ok ingress)
    (hs : ingress.member "spec" = .ok spec) (hb : spec.member "backend" = .ok backend)
    (hp : backend.member "servicePort" = .ok port) : NamesPort document port

/-- Collecting target groups trips over their ports only. -/
theorem trips_collectGroups (groups : TargetGroups) {entries : List Json}
    (he : ∀ entry ∈ entries, Check.targetGroup entry = []) (s : σ) :
    (collectGroups groups entries).Trips
      (fun t => ∃ entry ∈ entries, entry.member "servicePort" = .ok (.str t)) s := by
  induction entries generalizing groups s with
  | nil => exact (Trips.of_ok rfl).congr fun t => by simp
  | cons entry rest ih =>
    obtain ⟨hentry, hrest⟩ := List.forall_mem_cons.mp he
    have hparts := hentry
    simp only [Check.targetGroup, Check.all_eq_nil_iff, List.forall_mem_cons] at hparts
    obtain ⟨hobject, hnames, -⟩ := hparts
    obtain ⟨service, hservice⟩ :=
      Check.exists_member hobject hnames "serviceName" (by decide)
    obtain ⟨port, hport⟩ := Check.exists_member hobject hnames "servicePort" (by decide)
    obtain ⟨arn, harn⟩ :=
      Check.exists_member hobject hnames "targetGroupArn" (by decide)
    rw [collectGroups]
    have hread := Run.trips_read (s := s) (Backend.trips_ofDocument hservice hport)
    refine Trips.congr (hread.bind
      (fun t => ∃ entry ∈ rest, entry.member "servicePort" = .ok (.str t)) fun backend s' hb => ?_)
      fun t => by rw [List.exists_mem_cons_iff]
    have hbackend := (Run.ending_read_eq_ok_iff.mp hb).1
    obtain ⟨htyped, -⟩ := Check.typed_of_targetGroup hentry hbackend harn
    refine .bind_ok (Run.ending_read_of_ok (Backend.checkKey_of_typed htyped) s') ?_
    have hnext (s : σ) : (do
        let arn ← Run.read (entry.member "targetGroupArn")
        collectGroups (groups.put backend arn) rest : Run σ TargetGroups).Trips
          (fun t => ∃ entry ∈ rest, entry.member "servicePort" = .ok (.str t)) s :=
      .bind_ok (Run.ending_read_of_ok harn s) (ih _ hrest s)
    dsimp only
    split_ifs
    · exact .bind_ok (Run.ending_log ..) (hnext _)
    · exact hnext _

theorem exists_annotations {ingress : Json} (h : Check.ingress ingress = []) (keyPrefix : String) :
    ∃ found annotations, ingress.getD "annotations" .null = .ok found ∧
      annotationsOf keyPrefix found = .ok annotations := by
  simp only [Check.ingress, Check.all_eq_nil_iff, List.forall_mem_cons] at h
  obtain ⟨ho, -, -, -, hannotations, -⟩ := h
  obtain ⟨found, hfound⟩ := Check.exists_getD ho "annotations" .null
  obtain ⟨members, hmembers⟩ : ∃ members, found.orElse (.obj []) = .obj members := by
    rcases Check.check_of_getD hannotations hfound with rfl | hchecked
    · exact ⟨[], rfl⟩
    · simp only [Check.all_eq_nil_iff, List.forall_mem_cons] at hchecked
      obtain ⟨members, rfl⟩ := Check.of_object hchecked.1
      exact ⟨members, Json.orElse_obj_nil members⟩
  refine ⟨found, ⟨keyPrefix, members⟩, hfound, ?_⟩
  rw [annotationsOf, hmembers]
  rfl

theorem exists_entries {document : Json} (ho : Check.ofForm [.object] document = [])
    (h : Check.property "targetGroups"
      (Check.all [Check.ofForm [.array], Check.everyElement Check.targetGroup]) document = []) :
    ∃ found entries, document.getD "targetGroups" (.arr []) = .ok found ∧
      found.elements = .ok entries ∧
      ∀ entry, entry ∈ entries ↔
        ∃ elements, document.member "targetGroups" = .ok (.arr elements) ∧ entry ∈ elements := by
  obtain ⟨found, hfound⟩ := Check.exists_getD ho "targetGroups" (.arr [])
  obtain ⟨rfl, hnone⟩ | hmember := Check.member_of_getD ho hfound
  · refine ⟨.arr [], [], hfound, rfl, fun entry => iff_of_false List.not_mem_nil ?_⟩
    rintro ⟨elements, helements, -⟩
    exact hnone _ helements
  · have hchecked := Check.check_of_member h hmember
    simp only [Check.all_eq_nil_iff, List.forall_mem_cons] at hchecked
    obtain ⟨elements, rfl⟩ := Check.of_isOf_array (Check.isOf_of_ofForm hchecked.1)
    refine ⟨_, elements, hfound, rfl, fun entry => ⟨fun hm => ⟨elements, hmember, hm⟩, ?_⟩⟩
    rintro ⟨others, hothers, hm⟩
    cases hmember.symm.trans hothers
    exact hm

/-- Reading a document of the right form trips over its ports of services only. -/
theorem trips_ofDocument {document : Json} (hc : Check.request document = []) (keyPrefix : String)
    (instance? : Option Listener) (s : σ) :
    (ofDocument document keyPrefix instance?).Trips
      (fun t => NamesPort document (.str t)) s := by
  simp only [Check.request, Check.all_eq_nil_iff, List.forall_mem_cons] at hc
  obtain ⟨ho, hrequired, -, hingress, hport, hgroups, -⟩ := hc
  obtain ⟨arn, harn⟩ := Check.exists_member ho hrequired "loadBalancerArn" (by decide)
  obtain ⟨ingressDocument, hi⟩ := Check.exists_member ho hrequired "ingress" (by decide)
  obtain ⟨place, hplace⟩ := Check.exists_member ho hrequired "port" (by decide)
  obtain ⟨found, entries, hfound, helements, hentries⟩ := exists_entries ho hgroups
  have hchecked := Check.check_of_member hingress hi
  obtain ⟨given, annotations, hgiven, hannotations⟩ := exists_annotations hchecked keyPrefix
  obtain ⟨number, scheme, port, hnumber, hscheme, hread⟩ :=
    Check.exists_listenerPort (Check.check_of_member hport hplace)
  have hcollect := trips_collectGroups (σ := σ) []
    (Check.targetGroups_of_request hgroups hfound helements)
  rw [ofDocument]
  refine .bind_ok (Run.ending_read_of_ok hi s) ?_
  refine .bind_ok (Run.ending_read_of_ok (bind_eq_ok_iff.mpr ⟨_, hfound, helements⟩) s) ?_
  refine Trips.congr ((hcollect s).bind
    (fun t => ∃ spec backend, ingressDocument.member "spec" = .ok spec ∧
      spec.member "backend" = .ok backend ∧ backend.member "servicePort" = .ok (.str t))
    fun targetGroups s' _ => Run.trips_read ?_) fun t => ?_
  · refine .bind_ok harn (((Ingress.trips_ofDocument hchecked).bind (fun _ => False)
      fun ingress _ => ?_).congr fun t => iff_of_eq (or_false _))
    rw [bind_of_eq_ok hgiven, bind_of_eq_ok hannotations, bind_of_eq_ok hplace,
      bind_of_eq_ok hnumber, bind_of_eq_ok hscheme, bind_of_eq_ok hread]
    exact .of_ok rfl
  · constructor
    · rintro (⟨entry, hm, hp⟩ | ⟨spec, backend, hs, hb, hp⟩)
      · obtain ⟨elements, hg, hm⟩ := (hentries entry).mp hm
        exact .targetGroup hg hm hp
      · exact .backend hi hs hb hp
    · rintro (⟨hg, hm, hp⟩ | ⟨hi', hs, hb, hp⟩)
      · exact .inl ⟨_, (hentries _).mpr ⟨_, hg, hm⟩, hp⟩
      · cases hi.symm.trans hi'
        exact .inr ⟨_, _, hs, hb, hp⟩

end Request

end AlbListener

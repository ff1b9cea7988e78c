import AlbListener.Proofs.Request.Typed
import AlbListener.Proofs.Trace
import AlbListener.Request.Load

/-!
# Requests that are loaded

A document is loaded only if it has the form of a request. What is loaded is therefore of the
declared sorts.

Results:
* `check_of_member`, `check_of_getD`: what the check of a member says of the value read.
* `collectGroups_cons`: what the first of several entries adds.
* `parts_of_ofDocument`: the parts of a document that a request is read from.
* `typed_of_load`: a request that is loaded is typed.
-/

namespace AlbListener

/-! ## Sorts of values -/

namespace Json

theorem sign_mul (negative : Bool) (m u : ℕ) :
    Binary64.sign negative (u * m) = Binary64.sign negative m * u := by
  cases negative <;> simp [Binary64.sign, mul_comm]

/-- A double that counts as an integer is a whole number. -/
theorem isWhole_float {x : Binary64} (h : x.isIntegral = true) : (Json.float x).IsWhole := by
  cases x with
  | finite negative significand exponent =>
    obtain ⟨m, hm⟩ := Nat.dvd_of_mod_eq_zero (beq_iff_eq.mp h)
    refine ⟨Binary64.sign negative m, ?_⟩
    rw [IsInteger, number?, Binary64.number, hm, sign_mul, Number.ofInt]
  | _ => cases h

end Json

namespace Check

variable {value found default : Json} {name : String} {check : Check Json}

theorem of_isOf_object (h : isOf value .object = true) : ∃ members, value = .obj members := by
  cases value with
  | obj members => exact ⟨members, rfl⟩
  | _ => cases h

theorem of_isOf_array (h : isOf value .array = true) : ∃ elements, value = .arr elements := by
  cases value with
  | arr elements => exact ⟨elements, rfl⟩
  | _ => cases h

theorem of_isOf_string (h : isOf value .string = true) : ∃ s, value = .str s := by
  cases value with
  | str s => exact ⟨s, rfl⟩
  | _ => cases h

theorem of_isOf_integer (h : isOf value .integer = true) : value.IsWhole := by
  cases value with
  | int n => exact ⟨n, Json.isInteger_int n⟩
  | float x => exact Json.isWhole_float h
  | _ => cases h

theorem ofForm_eq_nil_iff {forms : List Form} :
    ofForm forms value = [] ↔ ∃ form ∈ forms, isOf value form = true := by
  rw [← List.any_eq_true, ofForm]
  split_ifs with h
  · exact iff_of_true rfl h
  · exact iff_of_false (List.cons_ne_nil _ _) h

theorem isOf_of_ofForm {form : Form} (h : ofForm [form] value = []) : isOf value form = true := by
  obtain ⟨form', hm, h⟩ := ofForm_eq_nil_iff.mp h
  rwa [List.mem_singleton.mp hm] at h

/-! ## Checks of parts -/

theorem property_obj {members : List (String × Json)} (h : property name check (.obj members) = [])
    (hget : Entries.get? members name = some found) : check found = [] := by
  rw [property, Document.shape_obj] at h
  dsimp only at h
  rw [hget] at h
  exact within_eq_nil_iff.mp h

/-- A member that is there passes its check. -/
theorem check_of_member (h : property name check value = [])
    (hf : value.member name = .ok found) : check found = [] := by
  cases value with
  | obj members => exact property_obj h (Json.member_obj_eq_ok_iff.mp hf)
  | _ => cases hf

/-- A member passes its check if it is there. -/
theorem check_of_getD (h : property name check value = [])
    (hf : value.getD name default = .ok found) : found = default ∨ check found = [] := by
  cases value with
  | obj members =>
    rw [Json.getD_obj] at hf
    cases hget : Entries.get? members name with
    | none =>
      rw [hget] at hf
      exact .inl (Except.ok.inj hf).symm
    | some value =>
      rw [hget] at hf
      cases hf
      exact .inr (property_obj h hget)
  | _ => cases hf

theorem check_of_mem_members {members : List (String × Json)} {entry : String × Json}
    (h : everyMember check (.obj members) = []) (hm : entry ∈ members) : check entry.2 = [] := by
  rw [everyMember, Document.shape_obj] at h
  simp only [List.flatMap_eq_nil_iff, List.forall_mem_map, within_eq_nil_iff] at h
  exact h entry hm

theorem check_of_mem_elements {elements : List Json} {element : Json}
    (h : everyElement check (.arr elements) = []) (hm : element ∈ elements) :
    check element = [] := by
  rw [everyElement, Document.shape_arr] at h
  simp only [List.flatMap_eq_nil_iff, within_eq_nil_iff] at h
  obtain ⟨index, hlt, rfl⟩ := List.getElem_of_mem hm
  exact h _ (List.mk_mem_zipIdx_iff_getElem?.mpr (List.getElem?_eq_getElem hlt))

/-! ## Parts of requests -/

theorem of_text (h : text value = []) : ∃ s, value = .str s := by
  simp only [text, all_eq_nil_iff, List.forall_mem_cons] at h
  exact of_isOf_string (isOf_of_ofForm h.1)

theorem of_servicePort (h : servicePort value = []) : value.IsWhole ∨ ∃ s, value = .str s := by
  simp only [servicePort, all_eq_nil_iff, List.forall_mem_cons] at h
  obtain ⟨form, hm, hform⟩ := ofForm_eq_nil_iff.mp h.1
  simp only [List.mem_cons, List.not_mem_nil, or_false] at hm
  rcases hm with rfl | rfl
  · exact .inl (of_isOf_integer hform)
  · exact .inr (of_isOf_string hform)

/-- A port of a service stays of its sorts when digits are read as a number. -/
theorem of_portOf {port : Json} (h : servicePort value = [])
    (hp : Backend.portOf value = .ok port) : port.IsWhole ∨ ∃ s, port = .str s := by
  unfold Backend.portOf at hp
  split at hp
  · split_ifs at hp
    · obtain ⟨n, -, hn⟩ := bind_eq_ok_iff.mp hp
      cases hn
      exact .inl ⟨n, Json.isInteger_int n⟩
    · cases hp
      exact .inr ⟨_, rfl⟩
  · cases hp
    exact of_servicePort h

theorem typed_of_names {b : Backend} (hname : property "serviceName" text value = [])
    (hport : property "servicePort" servicePort value = []) (h : Backend.ofDocument value = .ok b) :
    b.Typed := by
  obtain ⟨given, hgiven, h⟩ := bind_eq_ok_iff.mp h
  obtain ⟨port, hp, h⟩ := bind_eq_ok_iff.mp h
  obtain ⟨service, hs, h⟩ := bind_eq_ok_iff.mp h
  cases h
  exact ⟨of_text (check_of_member hname hs), of_portOf (check_of_member hport hgiven) hp⟩

theorem typed_of_backend {b : Backend} (h : backend value = [])
    (hb : Backend.ofDocument value = .ok b) : b.Typed := by
  simp only [backend, all_eq_nil_iff, List.forall_mem_cons] at h
  obtain ⟨-, -, hname, hport, -⟩ := h
  exact typed_of_names hname hport hb

theorem typed_of_targetGroup {b : Backend} {arn : Json} (h : targetGroup value = [])
    (hb : Backend.ofDocument value = .ok b) (ha : value.member "targetGroupArn" = .ok arn) :
    b.Typed ∧ ∃ s, arn = .str s := by
  simp only [targetGroup, all_eq_nil_iff, List.forall_mem_cons] at h
  obtain ⟨-, -, hname, hport, harn, -⟩ := h
  exact ⟨typed_of_names hname hport hb, of_text (check_of_member harn ha)⟩

/-- An object that stands in for a value passes what the value passes. -/
theorem property_orElse (h : value = .null ∨ property name check value = []) :
    property name check (value.orElse (.obj [])) = [] := by
  rw [Json.orElse]
  split_ifs with ht
  · rcases h with rfl | h
    · cases ht
    · exact h
  · rfl

/-- The default backend of an ingress stands in its specification. -/
theorem typed_of_ingress {ingress : Ingress} {b : Backend} (h : Check.ingress value = [])
    (hi : Ingress.ofDocument value = .ok ingress) (hb : ingress.backend = some b) : b.Typed := by
  simp only [Check.ingress, all_eq_nil_iff, List.forall_mem_cons] at h
  obtain ⟨-, -, -, -, -, hspec, -⟩ := h
  obtain ⟨spec, hs, hi⟩ := bind_eq_ok_iff.mp hi
  obtain ⟨given, hg, hi⟩ := bind_eq_ok_iff.mp hi
  obtain ⟨_, -, hi⟩ := bind_eq_ok_iff.mp hi
  obtain ⟨_, -, hi⟩ := bind_eq_ok_iff.mp hi
  have hproperty : property "backend" backend (spec.orElse (.obj [])) = [] := by
    refine property_orElse ((check_of_getD hspec hs).imp_right fun h => ?_)
    simp only [all_eq_nil_iff, List.forall_mem_cons] at h
    exact h.2.1
  dsimp only at hi
  split_ifs at hi with ht
  · obtain ⟨backend?, hbackend, hi⟩ := bind_eq_ok_iff.mp hi
    obtain ⟨_, -, hi⟩ := bind_eq_ok_iff.mp hi
    obtain ⟨_, -, hi⟩ := bind_eq_ok_iff.mp hi
    cases hi
    rcases check_of_getD hproperty hg with rfl | h
    · cases ht
    · obtain ⟨b', hread, rfl⟩ := map_eq_ok_iff.mp hbackend
      cases hb
      exact typed_of_backend h hread
  · obtain ⟨_, hbackend, hi⟩ := bind_eq_ok_iff.mp hi
    obtain ⟨_, -, hi⟩ := bind_eq_ok_iff.mp hi
    obtain ⟨_, -, hi⟩ := bind_eq_ok_iff.mp hi
    cases hi
    cases hbackend
    cases hb

theorem textual_of_ingress {keyPrefix : String} {annotations : Annotations}
    (h : Check.ingress value = []) (hg : value.getD "annotations" .null = .ok found)
    (ha : Request.annotationsOf keyPrefix found = .ok annotations) : annotations.Textual := by
  simp only [Check.ingress, all_eq_nil_iff, List.forall_mem_cons] at h
  obtain ⟨-, -, -, -, hannotations, -⟩ := h
  obtain ⟨values, hv, ha⟩ := bind_eq_ok_iff.mp ha
  cases ha
  intro entry hm
  rw [Json.orElse] at hv
  split_ifs at hv with ht
  · rcases check_of_getD hannotations hg with rfl | hfound
    · cases ht
    · simp only [all_eq_nil_iff, List.forall_mem_cons] at hfound
      obtain ⟨members, rfl⟩ := of_isOf_object (isOf_of_ofForm hfound.1)
      cases hv
      exact of_isOf_string (isOf_of_ofForm (check_of_mem_members hfound.2.1 hm))
  · cases hv
    cases hm

theorem isWhole_of_listenerPort {scheme : Json} {port : ListenerPort}
    (h : Check.listenerPort value = []) (hf : value.member "port" = .ok found)
    (hp : ListenerPort.ofJson found scheme = .ok port) : port.port.IsWhole := by
  have hsame : port.port = found := by
    unfold ListenerPort.ofJson at hp
    split at hp
    · cases hp
    · split_ifs at hp
      obtain ⟨_, -, hp⟩ := bind_eq_ok_iff.mp hp
      cases hp
      rfl
  simp only [Check.listenerPort, all_eq_nil_iff, List.forall_mem_cons] at h
  obtain ⟨-, -, hport, -⟩ := h
  have hinteger := check_of_member hport hf
  simp only [all_eq_nil_iff, List.forall_mem_cons] at hinteger
  rw [hsame]
  exact of_isOf_integer (isOf_of_ofForm hinteger.1)

theorem targetGroups_of_request {entries : List Json}
    (h : property "targetGroups" (all [ofForm [.array], everyElement targetGroup]) value = [])
    (hg : value.getD "targetGroups" (.arr []) = .ok found) (he : found.elements = .ok entries) :
    ∀ entry ∈ entries, targetGroup entry = [] := by
  rcases check_of_getD h hg with rfl | hfound
  · cases he
    exact fun entry hm => by cases hm
  · simp only [all_eq_nil_iff, List.forall_mem_cons] at hfound
    obtain ⟨elements, rfl⟩ := of_isOf_array (isOf_of_ofForm hfound.1)
    cases he
    exact fun entry hm => check_of_mem_elements hfound.2.1 hm

end Check

/-! ## Loading -/

theorem TargetGroups.Typed.put {groups : TargetGroups} (h : groups.Typed) {b : Backend} {arn : Json}
    (hb : b.Typed) (ha : ∃ s, arn = .str s) : (groups.put b arn).Typed := by
  induction groups with
  | nil =>
    intro entry hm
    rw [List.mem_singleton.mp hm]
    exact ⟨hb, ha⟩
  | cons first rest ih =>
    obtain ⟨hfirst, hrest⟩ := List.forall_mem_cons.mp h
    rw [TargetGroups.put]
    split_ifs
    · exact List.forall_mem_cons.mpr ⟨⟨hfirst.1, ha⟩, hrest⟩
    · exact List.forall_mem_cons.mpr ⟨hfirst, ih hrest⟩

namespace Request

variable {σ : Type} {s s' : σ}

/-- The record of a backend that comes again. -/
def repeatedRecord (b : Backend) : Effect := .log ⟨.warning, .validation, duplicateWarning b⟩

/-- What the first of several entries does. -/
theorem collectGroups_cons {groups collected : TargetGroups} {entry : Json} {rest : List Json}
    (h : (collectGroups groups (entry :: rest)).ending s = (.ok collected, s')) :
    ∃ b arn, Backend.ofDocument entry = .ok b ∧ entry.member "targetGroupArn" = .ok arn ∧
      (collectGroups (groups.put b arn) rest).ending s = (.ok collected, s') ∧
      (collectGroups groups (entry :: rest) s).trace =
        (if (groups.get? b).isSome then [repeatedRecord b] else []) ++
          (collectGroups (groups.put b arn) rest s).trace := by
  rw [collectGroups] at h
  obtain ⟨b, s₁, hb, h⟩ := Run.ending_bind_eq_ok_iff.mp h
  obtain ⟨_, s₂, hkey, h⟩ := Run.ending_bind_eq_ok_iff.mp h
  obtain ⟨hbackend, rfl⟩ := Run.ending_read_eq_ok_iff.mp hb
  obtain ⟨-, rfl⟩ := Run.ending_read_eq_ok_iff.mp hkey
  -- a backend that comes again is only warned of
  have hnext : (do
      let arn ← Run.read (entry.member "targetGroupArn")
      collectGroups (groups.put b arn) rest : Run σ TargetGroups).ending s =
        (.ok collected, s') := by
    dsimp only at h
    split_ifs at h
    · rwa [Run.ending_bind_of_ok _ (Run.ending_log ..)] at h
    · exact h
  obtain ⟨arn, s₃, harn, hnext⟩ := Run.ending_bind_eq_ok_iff.mp hnext
  obtain ⟨hmember, rfl⟩ := Run.ending_read_eq_ok_iff.mp harn
  refine ⟨b, arn, hbackend, hmember, hnext, ?_⟩
  rw [collectGroups, Run.trace_bind_of_ok _ hb, Run.trace_bind_of_ok _ hkey]
  dsimp only
  split_ifs
  · rw [Run.trace_bind_of_ok _ (Run.ending_log ..), Run.trace_bind_of_ok _ harn]
    rfl
  · rw [Run.trace_bind_of_ok _ harn]
    rfl

theorem typed_of_collectGroups {groups collected : TargetGroups} {entries : List Json}
    (hg : groups.Typed) (he : ∀ entry ∈ entries, Check.targetGroup entry = [])
    (h : (collectGroups groups entries).ending s = (.ok collected, s')) : collected.Typed := by
  induction entries generalizing groups with
  | nil =>
    cases h
    exact hg
  | cons entry rest ih =>
    obtain ⟨hentry, hrest⟩ := List.forall_mem_cons.mp he
    obtain ⟨b, arn, hb, harn, hnext, -⟩ := collectGroups_cons h
    obtain ⟨htyped, htext⟩ := Check.typed_of_targetGroup hentry hb harn
    exact ih (hg.put htyped htext) hrest hnext

/-- The parts of a document that a request is read from: the data of its ingress, the place of its
    port and the entries of its target groups. -/
structure Parts (document : Json) (keyPrefix : String) (request : Request) (data place : Json)
    (entries : List Json) : Prop where
  ingress_member : document.member "ingress" = .ok data
  port_member : document.member "port" = .ok place
  entries_getD : ∃ found, document.getD "targetGroups" (.arr []) = .ok found ∧
    found.elements = .ok entries
  loadBalancerArn : document.member "loadBalancerArn" = .ok request.loadBalancerArn
  ingress : Ingress.ofDocument data = .ok request.ingress
  annotations : ∃ found, data.getD "annotations" .null = .ok found ∧
    annotationsOf keyPrefix found = .ok request.annotations
  port : ∃ number scheme, place.member "port" = .ok number ∧
    ListenerPort.ofJson number scheme = .ok request.port

/-- A request is read part by part, and only collecting its target groups leaves a trace. -/
theorem parts_of_ofDocument {document : Json} {keyPrefix : String} {instance? : Option Listener}
    {request : Request} (h : (ofDocument document keyPrefix instance?).ending s = (.ok request, s')) :
    ∃ data place entries s₁, Parts document keyPrefix request data place entries ∧
      (collectGroups [] entries).ending s = (.ok request.targetGroups, s₁) ∧
      (ofDocument document keyPrefix instance? s).trace = (collectGroups [] entries s).trace := by
  obtain ⟨data, s₁, hi, h⟩ := Run.ending_bind_eq_ok_iff.mp h
  obtain ⟨entries, s₂, he, h⟩ := Run.ending_bind_eq_ok_iff.mp h
  obtain ⟨collected, s₃, hcollected, h⟩ := Run.ending_bind_eq_ok_iff.mp h
  have htrace : (ofDocument document keyPrefix instance? s).trace =
      (collectGroups [] entries s₂).trace := by
    rw [ofDocument, Run.trace_bind_of_ok _ hi, Run.trace_bind_of_ok _ he,
      Run.trace_bind_of_ok _ hcollected]
    exact List.append_nil _
  obtain ⟨hmember, hs₁⟩ := Run.ending_read_eq_ok_iff.mp hi
  obtain ⟨hentries, hs₂⟩ := Run.ending_read_eq_ok_iff.mp he
  rw [← hs₂, ← hs₁] at hcollected htrace
  obtain ⟨loadBalancerArn, hl, h⟩ := bind_eq_ok_iff.mp (Run.ending_read_eq_ok_iff.mp h).1
  obtain ⟨ingress, hread, h⟩ := bind_eq_ok_iff.mp h
  obtain ⟨found, hfound, h⟩ := bind_eq_ok_iff.mp h
  obtain ⟨annotations, hannotations, h⟩ := bind_eq_ok_iff.mp h
  obtain ⟨place, hplace, h⟩ := bind_eq_ok_iff.mp h
  obtain ⟨number, hnumber, h⟩ := bind_eq_ok_iff.mp h
  obtain ⟨scheme, -, h⟩ := bind_eq_ok_iff.mp h
  obtain ⟨port, hport, h⟩ := bind_eq_ok_iff.mp h
  cases h
  exact ⟨data, place, entries, s₃, {
    ingress_member := hmember
    port_member := hplace
    entries_getD := bind_eq_ok_iff.mp hentries
    loadBalancerArn := hl
    ingress := hread
    annotations := ⟨found, hfound, hannotations⟩
    port := ⟨number, scheme, hnumber, hport⟩ }, hcollected, htrace⟩

theorem typed_of_ofDocument {document : Json} {keyPrefix : String} {instance? : Option Listener}
    {request : Request} (hc : Check.request document = [])
    (h : (ofDocument document keyPrefix instance?).ending s = (.ok request, s')) :
    request.Typed := by
  obtain ⟨data, place, entries, s₁, hparts, hcollected, -⟩ := parts_of_ofDocument h
  obtain ⟨found, hfound, he⟩ := hparts.entries_getD
  obtain ⟨values, hvalues, hannotations⟩ := hparts.annotations
  obtain ⟨number, scheme, hnumber, hp⟩ := hparts.port
  simp only [Check.request, Check.all_eq_nil_iff, List.forall_mem_cons] at hc
  obtain ⟨-, -, hlb, hingress, hport, hgroups, -⟩ := hc
  have hchecked := Check.check_of_member hingress hparts.ingress_member
  have hplaced := Check.check_of_member hport hparts.port_member
  have hentries := Check.targetGroups_of_request hgroups hfound he
  exact {
    loadBalancerArn := Check.of_text (Check.check_of_member hlb hparts.loadBalancerArn)
    port := Check.isWhole_of_listenerPort hplaced hnumber hp
    annotations := Check.textual_of_ingress hchecked hvalues hannotations
    backend := fun _ hb => Check.typed_of_ingress hchecked hparts.ingress hb
    targetGroups := typed_of_collectGroups (fun _ hm => by cases hm) hentries hcollected }

/-- A request that is loaded from a JSON document is of the declared sorts. -/
theorem typed_of_load {document : Json} {keyPrefix : String} {instance? : Option Listener}
    {request : Request}
    (h : (load document keyPrefix instance?).ending s = (.ok request, s')) : request.Typed := by
  unfold load at h
  split at h
  · cases h
  · rename_i hreport
    exact typed_of_ofDocument (Check.report_eq_none_iff.mp hreport) h

end Request

end AlbListener

import AlbListener.Proofs.Listener.Respelling

/-!
# Drift on respelled listeners

Every change to how a description spells a listener leaves a description that spells the same
listener, so drift is found on the same fields after any number of changes.

Results:
* `actionsIn_permuted`, `actionsIn_renumbered`, `actionsIn_written`: changes to actions.
* `certificatesIn_alike`: changes to certificates.
* `spellsAlike_of_respelled`: one change.
* `fields_of_respelled`: any number of changes.
-/

namespace AlbListener.Listener

open Entries (get? put)
open Json (Reordered given)
open AlbListener.Action (Absorbed PlainDocument SettingsAlike withSetting)

variable {documents documents' : List Json} {members members' : List (String × Json)}

/-! ## What is not an array -/

/-- The elements of a value that is given and is no array are texts. -/
theorem elements_of_not_arr {value : Json} (hn : ∀ elements, value ≠ .arr elements)
    (ht : value.isTruthy = true) :
    (∃ fault, value.elements = .error fault) ∨
      ∃ s rest, value.elements = .ok (.str s :: rest) := by
  cases value with
  | arr elements => exact absurd rfl (hn elements)
  | obj members =>
    cases members with
    | nil => cases ht
    | cons member rest => exact .inr ⟨_, _, rfl⟩
  | str s =>
    cases hs : s.toList with
    | nil => simp [Json.isTruthy, String.toList_eq_nil_iff.mp hs] at ht
    | cons c cs => exact .inr ⟨_, _, by rw [Json.elements, hs, List.map_cons]⟩
  | _ => exact .inl ⟨_, rfl⟩

/-- What is not an array holds no actions or cannot be read. -/
theorem actionsIn_of_not_arr {value : Json} (hn : ∀ elements, value ≠ .arr elements) :
    if value.isTruthy then ∃ fault, actionsIn value = .error fault
      else actionsIn value = .ok [] := by
  unfold actionsIn Json.orElse
  split_ifs with ht
  · rcases elements_of_not_arr hn ht with ⟨fault, h⟩ | ⟨s, rest, h⟩
    · exact ⟨fault, by rw [h]; rfl⟩
    · exact ⟨_, by rw [h]; rfl⟩
  · rfl

/-- What is not an array holds no certificates or cannot be read. -/
theorem certificatesIn_of_not_arr {value : Json} (hn : ∀ elements, value ≠ .arr elements) :
    if value.isTruthy then ∃ fault, certificatesIn value = .error fault
      else certificatesIn value = .ok [] := by
  unfold certificatesIn Json.orElse
  split_ifs with ht
  · rcases elements_of_not_arr hn ht with ⟨fault, h⟩ | ⟨s, rest, h⟩
    · exact ⟨fault, by rw [h]; rfl⟩
    · exact ⟨.mismatch (.subscriptByName .str), by rw [h, bind_of_eq_ok rfl, List.mapM_cons]; rfl⟩
  · rfl

/-! ## Actions -/

/-- Documents whose members are reordered are read alike. -/
theorem documentAlike_of_reordered {document document' : Json} (hp : PlainAction document)
    (h : Reordered document document') : DocumentAlike document document' := by
  rcases h.cases with ⟨rfl, hplain⟩ | ⟨_, _, rfl, rfl, -⟩ | ⟨members, members', rfl, rfl, -, -, hm⟩
  · refine .other ?_ ?_ <;> rintro members rfl <;> cases hplain
  · exact .other nofun nofun
  · exact .read (Reordered.rel_getD (hm "Order") (.refl (.plain rfl)))
      (Action.readAlike_of_plain (hp.plain members rfl) fun name _ => hm name)

theorem actionsIn_reordered {value value' : Json}
    (hp : ∀ documents, value = .arr documents → ∀ d ∈ documents, PlainAction d)
    (h : Reordered value value') :
    Alike AnyFault (List.Forall₂ Action.Interchangeable) (actionsIn value) (actionsIn value') := by
  by_cases harr : ∃ documents, value = .arr documents
  · obtain ⟨documents, rfl⟩ := harr
    obtain ⟨documents', rfl, hall⟩ := h.exists_arr
    refine actionsIn_alike (List.forall₂_iff_zip.mpr ⟨hall.length_eq, fun hm => ?_⟩)
    exact documentAlike_of_reordered (hp documents rfl _ (List.of_mem_zip hm).1)
      ((List.forall₂_iff_zip.mp hall).2 hm)
  · have hn : ∀ documents, value ≠ .arr documents := fun documents ho => harr ⟨documents, ho⟩
    have hn' : ∀ documents, value' ≠ .arr documents := by
      rintro documents rfl
      obtain ⟨documents', ho, -⟩ := h.symm.exists_arr
      exact hn documents' ho
    have hread := actionsIn_of_not_arr hn
    have hread' := actionsIn_of_not_arr hn'
    rw [← h.isTruthy] at hread'
    split_ifs at hread hread'
    · obtain ⟨fault, hf⟩ := hread
      obtain ⟨fault', hf'⟩ := hread'
      rw [hf, hf']
      exact .error trivial
    · rw [hread, hread']
      exact .ok .nil

/-- The documents with the number of each. -/
def numbered (documents : List Json) : List (Int × Json) :=
  documents.map fun document => ((number? document).getD 0, document)

theorem getD_order_of_number? {document : Json} {n : Int} (h : number? document = some n) :
    document.getD "Order" (.int 0) = .ok (.int n) := by
  obtain ⟨members, rfl, hplace⟩ := number?_eq_some_iff.mp h
  rw [Json.getD_obj, hplace, Option.getD_some]

/-- Documents with whole numbers as their places are sorted by these. -/
theorem inOrder_of_numbered (h : ∀ d ∈ documents, (number? d).isSome) :
    inOrder documents = .ok ((sortBy numberLe (numbered documents)).map Prod.snd) := by
  rw [← inOrder_of_placed, numbered, List.map_map]
  · exact congrArg inOrder (List.map_id documents).symm
  · intro p hp
    obtain ⟨d, hd, rfl⟩ := List.mem_map.mp hp
    obtain ⟨n, hn⟩ := Option.isSome_iff_exists.mp (h d hd)
    rw [hn]
    exact ⟨_, getD_order_of_number? hn, Json.isInteger_int n⟩

theorem map_fst_numbered (h : ∀ d ∈ documents, (number? d).isSome) :
    ((numbered documents).map Prod.fst).map some = documents.map number? := by
  rw [numbered, List.map_map, List.map_map]
  refine List.map_congr_left fun d hd => ?_
  obtain ⟨n, hn⟩ := Option.isSome_iff_exists.mp (h d hd)
  simp only [Function.comp, hn, Option.getD_some]

/-- Documents with distinct places can come in any order. -/
theorem inOrder_permuted (hn : Numbered documents) (p : documents.Perm documents') :
    inOrder documents = inOrder documents' := by
  have hn' : ∀ d ∈ documents', (number? d).isSome := fun d hd => hn.1 d (p.mem_iff.mpr hd)
  have hnodup : ((numbered documents).map Prod.fst).Nodup := by
    have h := hn.2
    rw [← map_fst_numbered hn.1] at h
    exact h.of_map
  have hperm : (numbered documents).Perm (numbered documents') := p.map _
  rw [inOrder_of_numbered hn.1, inOrder_of_numbered hn', sortBy_eq_of_perm hnodup hperm]

theorem actionsIn_permuted (hn : Numbered documents) (p : documents.Perm documents') :
    actionsIn (.arr documents) = actionsIn (.arr documents') := by
  rw [actionsIn_arr, actionsIn_arr, inOrder_permuted hn p]

/-- Documents whose places have other numbers are read alike. -/
theorem ofObserved_renumbered {document : Json} {n : Int} (f : Int → Int)
    (hp : PlainAction document) (hn : number? document = some n) :
    Alike AnyFault Action.Interchangeable (Action.ofObserved document)
      (Action.ofObserved (renumbered f document)) := by
  obtain ⟨members, hobj, hplace⟩ := number?_eq_some_iff.mp hn
  rw [renumbered_of_number? f hobj hplace, hobj]
  subst hobj
  refine Action.ofObserved_alike (Action.readAlike_of_plain (hp.plain members rfl) fun name hname => ?_)
  rw [Entries.get?_put_of_ne _ _ hname.symm]
  exact Action.rel_refl hp.distinct name

theorem getD_order_renumbered {document : Json} {n : Int} (f : Int → Int)
    (hn : number? document = some n) :
    (renumbered f document).getD "Order" (.int 0) = .ok (.int (f n)) := by
  obtain ⟨members, hobj, hplace⟩ := number?_eq_some_iff.mp hn
  rw [renumbered_of_number? f hobj hplace, Json.getD_obj, Entries.get?_put_self, Option.getD_some]

/-- Numbers that keep their order compare alike. -/
theorem decide_lt_of_increasing {f : Int → Int} {m n : Int} (h : m < n → f m < f n)
    (h' : n < m → f n < f m) : decide (m < n) = decide (f m < f n) := by
  rw [decide_eq_decide]
  refine ⟨h, fun hlt => ?_⟩
  rcases Int.lt_trichotomy m n with hmn | rfl | hnm
  · exact hmn
  · exact absurd hlt (Int.lt_irrefl _)
  · exact absurd (Int.lt_trans hlt (h' hnm)) (Int.lt_irrefl _)

/-- Places can have other numbers in the same order. -/
theorem actionsIn_renumbered {f : Int → Int} (hp : ∀ d ∈ documents, PlainAction d)
    (hn : ∀ d ∈ documents, (number? d).isSome)
    (hf : ∀ d ∈ documents, ∀ e ∈ documents, ∀ m n, number? d = some m → number? e = some n →
      m < n → f m < f n) :
    Alike AnyFault (List.Forall₂ Action.Interchangeable) (actionsIn (.arr documents))
      (actionsIn (.arr (documents.map (renumbered f)))) := by
  have hdocuments : List.Forall₂ (fun d d' => d ∈ documents ∧ d' = renumbered f d) documents
      (documents.map (renumbered f)) := by
    rw [List.forall₂_map_right_iff]
    exact List.forall₂_same.mpr fun d hd => ⟨hd, rfl⟩
  have hordered := inOrder_alike (E := AnyFault)
    (P := fun p p' => ∃ d ∈ documents, ∃ n, number? d = some n ∧ p = .int n ∧ p' = .int (f n))
    hdocuments
    (fun d d' ⟨hd, hd'⟩ => by
      obtain ⟨n, hnumber⟩ := Option.isSome_iff_exists.mp (hn d hd)
      rw [hd', getD_order_of_number? hnumber, getD_order_renumbered f hnumber]
      exact .ok ⟨d, hd, n, hnumber, rfl, rfl⟩)
    (fun _ _ _ _ ⟨d, hd, m, hm, hp, hp'⟩ ⟨e, he, n, hen, hq, hq'⟩ => by
      rw [hp, hp', hq, hq', less?_of_isInteger (Json.isInteger_int m) (Json.isInteger_int n),
        less?_of_isInteger (Json.isInteger_int (f m)) (Json.isInteger_int (f n)),
        decide_lt_of_increasing (hf d hd e he m n hm hen) (hf e he d hd n m hen hm)]
      exact .ok rfl)
  rw [actionsIn_arr, actionsIn_arr]
  refine hordered.bind fun ordered ordered' ho => .mapM ho fun d d' ⟨hd, hd'⟩ => ?_
  obtain ⟨n, hnumber⟩ := Option.isSome_iff_exists.mp (hn d hd)
  rw [hd']
  exact ofObserved_renumbered f (hp d hd) hnumber

/-- Members that can be left out can be written. -/
theorem actionsIn_written {before after : List Json} {settings : List (String × Json)}
    {config : String} {member : String × Json} (ha : Absorbed config member)
    (hs : get? members config = some (.obj settings)) (hn : get? settings member.1 = none)
    (hp : ∀ d ∈ before ++ .obj members :: after, PlainAction d) :
    Alike AnyFault (List.Forall₂ Action.Interchangeable)
      (actionsIn (.arr (before ++ .obj members :: after)))
      (actionsIn (.arr (before ++ .obj (withSetting members config settings member) :: after))) := by
  obtain ⟨hbefore, hself, hafter⟩ : (∀ d ∈ before, PlainAction d) ∧ PlainAction (.obj members) ∧
      ∀ d ∈ after, PlainAction d := by
    simpa only [List.forall_mem_append, List.forall_mem_cons] using hp
  have hsame {documents : List Json} (h : ∀ d ∈ documents, PlainAction d) :
      List.Forall₂ DocumentAlike documents documents :=
    List.forall₂_same.mpr fun d hd => documentAlike_of_reordered (h d hd) (.refl (h d hd).distinct)
  have hname : config ≠ "Order" := by
    cases ha with
    | component => decide
    | setting provider | secret provider | keepSecret provider => cases provider <;> decide
  refine actionsIn_alike (List.rel_append (hsame hbefore) (.cons (.read ?_ ?_) (hsame hafter)))
  · rw [withSetting, Entries.get?_put_of_ne _ _ hname]
    exact Reordered.rel_getD (Action.rel_refl hself.distinct _) (.refl (.plain rfl))
  · exact Action.readAlike_of_absorbed hself.distinct (hself.plain members rfl) ha hs hn

/-- A change to the documents of actions leaves interchangeable actions in the same order. -/
theorem actionsIn_respelled (hp : ∀ d ∈ documents, PlainAction d)
    (h : ActionsRespelled documents documents') :
    Alike AnyFault (List.Forall₂ Action.Interchangeable) (actionsIn (.arr documents))
      (actionsIn (.arr documents')) := by
  cases h with
  | permute hn p =>
    rw [actionsIn_permuted hn p]
    exact .refl (fun _ => trivial) (fun _ => List.forall₂_same.mpr fun _ _ _ _ => rfl) _
  | renumber f hn hf => exact actionsIn_renumbered hp hn.1 hf
  | write ha hs hn => exact actionsIn_written ha hs hn hp

/-! ## Certificates -/

/-- A certificate that is as it should be is read, and can be a member of a set. -/
theorem PlainCertificate.exists_ofDocument {document : Json} (h : PlainCertificate document) :
    ∃ c, Certificate.ofDocument document = .ok c ∧ c.arn.isCompound = false ∧
      c.isDefault.isCompound = false := by
  obtain ⟨harn, hdefault⟩ := h
  rename_i members arn
  refine ⟨⟨.str arn, (get? members "IsDefault").getD (.bool true)⟩, ?_, rfl, ?_⟩
  · rw [Certificate.ofDocument, bind_of_eq_ok (Json.member_obj_eq_ok_iff.mpr harn), Json.getD_obj]
    rfl
  · cases hv : get? members "IsDefault" with
    | none => rfl
    | some value =>
      obtain ⟨b, rfl⟩ := hdefault value hv
      rfl

/-- Documents that describe the same certificates are read alike. -/
theorem certificatesIn_alike (hp : ∀ d ∈ documents, PlainCertificate d)
    (hp' : ∀ d ∈ documents', PlainCertificate d)
    (h : ∀ step, step ∈ documents.map Certificate.ofDocument ↔
      step ∈ documents'.map Certificate.ofDocument) :
    Alike AnyFault SameCertificates (certificatesIn (.arr documents))
      (certificatesIn (.arr documents')) := by
  have hread {documents : List Json} (hp : ∀ d ∈ documents, PlainCertificate d) :
      ∃ certificates, certificatesIn (.arr documents) = .ok certificates ∧
        ∀ c, c ∈ certificates ↔ .ok c ∈ documents.map Certificate.ofDocument := by
    obtain ⟨certificates, hc⟩ := exists_mapM_iff.mpr fun d hd =>
      (hp d hd).exists_ofDocument.imp fun _ h => h.1
    refine ⟨certificates, ?_, fun c => mem_iff_of_mapM hc⟩
    rw [certificatesIn, Json.orElse_arr_nil, Json.elements, bind_of_eq_ok rfl, hc]
  obtain ⟨certificates, hc, hmem⟩ := hread hp
  obtain ⟨certificates', hc', hmem'⟩ := hread hp'
  rw [hc, hc']
  refine .ok ⟨fun c => by rw [hmem, hmem', h], fun c hm => ?_⟩
  obtain ⟨d, hd, hdc⟩ := List.mem_map.mp ((hmem c).mp hm)
  obtain ⟨c', hc', hplain⟩ := (hp d hd).exists_ofDocument
  rw [hdc] at hc'
  cases hc'
  exact hplain

/-- The document of a certificate whose members are reordered describes the same certificate. -/
theorem ofDocument_reordered {document document' : Json} (hp : PlainCertificate document)
    (h : Reordered document document') :
    Certificate.ofDocument document = Certificate.ofDocument document' := by
  obtain ⟨harn, hdefault⟩ := hp
  rename_i members arn
  obtain ⟨members', rfl⟩ := h.exists_obj
  obtain ⟨arn', harn', hsame⟩ := h.exists_value harn
  obtain rfl := hsame.eq_of_plain rfl
  have hd : (get? members "IsDefault").getD (.bool true) =
      (get? members' "IsDefault").getD (.bool true) := by
    refine (Reordered.rel_getD ((Json.reordered_obj_iff.mp h).2.2 _)
      (.refl (.plain rfl))).eq_of_plain ?_
    cases hv : get? members "IsDefault" with
    | none => rfl
    | some value =>
      obtain ⟨b, rfl⟩ := hdefault value hv
      rfl
  rw [Certificate.ofDocument, Certificate.ofDocument,
    bind_of_eq_ok (Json.member_obj_eq_ok_iff.mpr harn),
    bind_of_eq_ok (Json.member_obj_eq_ok_iff.mpr harn'), Json.getD_obj, Json.getD_obj, hd]

theorem ofDocument_written (hn : get? members "IsDefault" = none) :
    Certificate.ofDocument (.obj (members ++ [("IsDefault", .bool true)])) =
      Certificate.ofDocument (.obj members) := by
  have harn : get? (members ++ [("IsDefault", .bool true)]) "CertificateArn" =
      get? members "CertificateArn" := by
    rw [Action.get?_concat, if_neg (by decide), Option.or_none]
  rw [Certificate.ofDocument, Certificate.ofDocument, Json.member, Json.member, harn, Json.getD_obj,
    Json.getD_obj, Action.get?_concat, hn, if_pos rfl]
  rfl

theorem certificatesIn_reordered {value value' : Json}
    (hp : ∀ documents, value = .arr documents → ∀ d ∈ documents, PlainCertificate d)
    (h : Reordered value value') :
    Alike AnyFault SameCertificates (certificatesIn value) (certificatesIn value') := by
  by_cases harr : ∃ documents, value = .arr documents
  · obtain ⟨documents, rfl⟩ := harr
    obtain ⟨documents', rfl, hall⟩ := h.exists_arr
    have hp := hp documents rfl
    have hsame : documents.map Certificate.ofDocument = documents'.map Certificate.ofDocument := by
      rw [← List.forall₂_eq_eq_eq, List.forall₂_map_left_iff, List.forall₂_map_right_iff]
      refine List.forall₂_iff_zip.mpr ⟨hall.length_eq, fun hm => ?_⟩
      exact ofDocument_reordered (hp _ (List.of_mem_zip hm).1) ((List.forall₂_iff_zip.mp hall).2 hm)
    refine certificatesIn_alike hp (fun d' hd' => ?_) fun step => by rw [hsame]
    obtain ⟨d, hd, hr⟩ := Reordered.exists_element (hall.flip.imp fun _ _ h => h.symm) hd'
    exact (hp d hd).reordered hr.symm
  · have hn : ∀ documents, value ≠ .arr documents := fun documents ho => harr ⟨documents, ho⟩
    have hn' : ∀ documents, value' ≠ .arr documents := by
      rintro documents rfl
      obtain ⟨documents', ho, -⟩ := h.symm.exists_arr
      exact hn documents' ho
    have hread := certificatesIn_of_not_arr hn
    have hread' := certificatesIn_of_not_arr hn'
    rw [← h.isTruthy] at hread'
    split_ifs at hread hread'
    · obtain ⟨fault, hf⟩ := hread
      obtain ⟨fault', hf'⟩ := hread'
      rw [hf, hf']
      exact .error trivial
    · rw [hread, hread']
      exact .ok ⟨fun _ => Iff.rfl, fun _ hm => nomatch hm⟩

/-- A change to the documents of certificates leaves the same certificates. -/
theorem certificatesIn_respelled (hp : ∀ d ∈ documents, PlainEntry d)
    (h : CertificatesRespelled documents documents') :
    Alike AnyFault SameCertificates (certificatesIn (.arr documents))
      (certificatesIn (.arr documents')) := by
  have hp' := (plainEntries_iff h).mp hp
  refine certificatesIn_alike (fun d hd => (hp d hd).2) (fun d hd => (hp' d hd).2) fun step => ?_
  cases h with
  | relist h => simp only [List.mem_map, h]
  | write hn => rw [List.map_append, List.map_append, List.map_cons, List.map_cons,
      ofDocument_written hn]

/-! ## Descriptions -/

theorem spellsAlike_reordered (hp : PlainDescription members)
    (h : Reordered (.obj members) (.obj members')) : SpellsAlike members members' := by
  have hname := (Json.reordered_obj_iff.mp h).2.2
  have hgiven (name : String) : Reordered (given members name) (given members' name) :=
    Reordered.rel_getD (hname name) (.refl Json.distinct_null)
  have hfound {name : String} {documents : List Json} (hg : given members name = .arr documents) :
      get? members name = some (.arr documents) := Json.get?_of_given hg nofun
  exact ⟨fun name _ => hname name,
    actionsIn_reordered (fun _ hg _ hm => hp.plainAction (hfound hg) hm) (hgiven _),
    certificatesIn_reordered (fun documents hg => hp.certificates documents (hfound hg)) (hgiven _)⟩

theorem SpellsAlike.put_actions (hp : PlainDescription members)
    (hv : get? members "DefaultActions" = some (.arr documents))
    (h : Alike AnyFault (List.Forall₂ Action.Interchangeable) (actionsIn (.arr documents))
      (actionsIn (.arr documents'))) :
    SpellsAlike members (put members "DefaultActions" (.arr documents')) := by
  have hself := spellsAlike_reordered hp (.refl hp.distinct)
  refine ⟨fun name hm => ?_, ?_, ?_⟩
  · rw [Entries.get?_put_of_ne _ _ (by rintro rfl; revert hm; decide)]
    exact hself.plain name hm
  · rw [given, given, hv, Entries.get?_put_self]
    exact h
  · rw [given, given, Entries.get?_put_of_ne _ _ (by decide)]
    exact hself.certificates

theorem SpellsAlike.put_certificates (hp : PlainDescription members)
    (hv : get? members "Certificates" = some (.arr documents))
    (h : Alike AnyFault SameCertificates (certificatesIn (.arr documents))
      (certificatesIn (.arr documents'))) :
    SpellsAlike members (put members "Certificates" (.arr documents')) := by
  have hself := spellsAlike_reordered hp (.refl hp.distinct)
  refine ⟨fun name hm => ?_, ?_, ?_⟩
  · rw [Entries.get?_put_of_ne _ _ (by rintro rfl; revert hm; decide)]
    exact hself.plain name hm
  · rw [given, given, Entries.get?_put_of_ne _ _ (by decide)]
    exact hself.actions
  · rw [given, given, hv, Entries.get?_put_self]
    exact h

/-- A change leaves a description that spells the same listener. -/
theorem spellsAlike_of_respelled (hp : PlainDescription members) {description : Json}
    (h : Respelled (.obj members) description) :
    ∃ members', description = .obj members' ∧ SpellsAlike members members' := by
  cases h with
  | reorder h =>
    have hr := h.reordered hp.distinct
    obtain ⟨members', rfl⟩ := hr.exists_obj
    exact ⟨members', rfl, spellsAlike_reordered hp hr⟩
  | actions hv hr =>
    exact ⟨_, rfl, .put_actions hp hv
      (actionsIn_respelled (fun _ hm => hp.plainAction hv hm) hr)⟩
  | certificates hv hr =>
    exact ⟨_, rfl, .put_certificates hp hv (certificatesIn_respelled (hp.plainEntry hv) hr)⟩

/-! ## Drift -/

/-- The fields on which drift is found, if a description is read. -/
def driftedFields (description : Json) (config : ListenerConfig) :
    Option (Except Fault (List String)) :=
  (ofDocument description).toOption.map fun live => (live.drifts config).map (List.map Drift.field)

theorem driftedFields_of_spellsAlike (h : SpellsAlike members members') {config : ListenerConfig}
    (hc : ∀ a ∈ config.defaultActions, a.Managed) :
    driftedFields (.obj members') config = driftedFields (.obj members) config := by
  have hread {members members' : List (String × Json)} (h : SpellsAlike members members')
      {live : Listener} (hl : ofDocument (.obj members) = .ok live) :
      ∃ live', ofDocument (.obj members') = .ok live' ∧ live.Interchangeable live' :=
    (h.describes (ofDocument_eq_ok_iff.mp hl)).imp fun _ hd => ⟨ofDocument_eq_ok_iff.mpr hd.1, hd.2⟩
  unfold driftedFields
  cases hl : ofDocument (.obj members) with
  | ok live =>
    obtain ⟨live', hl', hsame⟩ := hread h hl
    rw [hl']
    exact congrArg some (fields_of_interchangeable hsame hc)
  | error fault =>
    cases hl' : ofDocument (.obj members') with
    | error => rfl
    | ok live' =>
      obtain ⟨live, hl'', -⟩ := hread h.symm hl'
      rw [hl''] at hl
      cases hl

/-- Descriptions that changes lead to, done or undone: what they have in common. -/
theorem driftedFields_of_eqvGen {description description' : Json}
    (h : Relation.EqvGen Respelled description description') {config : ListenerConfig}
    (hc : ∀ a ∈ config.defaultActions, a.Managed) :
    (IsPlain description ↔ IsPlain description') ∧ (IsPlain description →
      driftedFields description' config = driftedFields description config) := by
  induction h with
  | refl => exact ⟨Iff.rfl, fun _ => rfl⟩
  | symm _ _ _ ih => exact ⟨ih.1.symm, fun hp => (ih.2 (ih.1.mpr hp)).symm⟩
  | trans _ _ _ _ _ ih ih' =>
    exact ⟨ih.1.trans ih'.1, fun hp => (ih'.2 (ih.1.mp hp)).trans (ih.2 hp)⟩
  | rel description description' h =>
    refine ⟨isPlain_iff_of_respelled h, ?_⟩
    rintro ⟨members, rfl, hp⟩
    obtain ⟨members', rfl, hsame⟩ := spellsAlike_of_respelled hp h
    exact driftedFields_of_spellsAlike hsame hc

/-- Drift is found on the same fields of a listener that is read, however its description is
    respelled. -/
theorem fields_of_respelled {description description' : Json} {live : Listener}
    {config : ListenerConfig} (hp : IsPlain description)
    (h : Relation.EqvGen Respelled description description')
    (hl : ofDocument description = .ok live)
    (hc : ∀ a ∈ config.defaultActions, ∃ data : Json, data.Distinct ∧ Action.ofDocument data = .ok a) :
    ∃ live', ofDocument description' = .ok live' ∧
      (live'.drifts config).map (List.map Drift.field) =
        (live.drifts config).map (List.map Drift.field) := by
  have hmanaged : ∀ a ∈ config.defaultActions, a.Managed := fun a ha => by
    obtain ⟨data, hd, hread⟩ := hc a ha
    exact Action.managed_of_ofDocument hd hread
  have hsame := (driftedFields_of_eqvGen h hmanaged).2 hp
  unfold driftedFields at hsame
  rw [hl] at hsame
  cases hl' : ofDocument description' with
  | error fault =>
    rw [hl'] at hsame
    cases hsame
  | ok live' =>
    rw [hl'] at hsame
    exact ⟨live', rfl, Option.some.inj hsame⟩

/-- The documents of a sign-in and of the forward behind it. -/
def signIn : List (String × Json) :=
  [("Type", .str "authenticate-oidc"), ("Order", .int 1),
    ("AuthenticateOidcConfig", .obj [("Issuer", .str "https://id")])]

def serve : List (String × Json) :=
  [("Type", .str "forward"), ("Order", .int 2), ("TargetGroupArn", .str "blue")]

theorem plainDocument_signIn : PlainDocument signIn where
  configs := fun name hname value hv => by
    simp only [Action.configNames, List.mem_cons, List.not_mem_nil, or_false] at hname
    rcases hname with rfl | rfl | rfl | rfl | rfl <;> cases hv
    exact ⟨_, rfl⟩
  groups := fun _ hs => nomatch hs
  fixedStatus := fun _ hs => nomatch hs
  redirectStatus := fun _ hs => nomatch hs
  redirectPort := fun _ hs => nomatch hs

theorem plainDocument_serve : PlainDocument serve where
  configs := fun name hname value hv => by
    simp only [Action.configNames, List.mem_cons, List.not_mem_nil, or_false] at hname
    rcases hname with rfl | rfl | rfl | rfl | rfl <;> cases hv
  groups := fun _ hs => nomatch hs
  fixedStatus := fun _ hs => nomatch hs
  redirectStatus := fun _ hs => nomatch hs
  redirectPort := fun _ hs => nomatch hs

/-- A description that names the forward first and leaves out what has a default. -/
def terse : List (String × Json) :=
  [("ListenerArn", .str "arn"), ("Port", .int 443), ("Protocol", .str "HTTPS"),
    ("DefaultActions", .arr [.obj serve, .obj signIn]),
    ("Certificates", .arr [.obj [("CertificateArn", .str "one")]])]

/-- The same description with the actions in order and the scope written. -/
def verbose : List (String × Json) :=
  put terse "DefaultActions" (.arr [.obj (withSetting signIn "AuthenticateOidcConfig"
    [("Issuer", .str "https://id")] ("Scope", .str "openid")), .obj serve])

/-- A config with the certificate that is described and only the last one of the actions. -/
def forwardOnly : ListenerConfig where
  port := .int 443
  protocol := .https
  defaultActions := [.forward (.str "blue")]
  sslPolicy := .null
  certificates := [⟨.str "one", .bool true⟩]
  defaultActions_ne_nil := List.cons_ne_nil _ _
  oneDefault := Nat.le_refl 1

theorem fields_of_respelled_verbose : ∃ live live', ofDocument (.obj terse) = .ok live ∧
    ofDocument (.obj verbose) = .ok live' ∧
    (live'.drifts forwardOnly).map (List.map Drift.field) =
      (live.drifts forwardOnly).map (List.map Drift.field) := by
  have hnumber (n : Int) : (Json.int n).Distinct := .plain rfl
  have hserve : (Json.obj serve).Distinct := by
    simp [serve, Json.distinct_obj_iff, Entries.Distinct, Entries.names, Json.distinct_str, hnumber]
  have hd : (Json.obj terse).Distinct := by
    simp [terse, hserve, signIn, Json.distinct_obj_iff, Json.distinct_arr_iff, Entries.Distinct,
      Entries.names, Json.distinct_str, hnumber]
  have hplain : PlainDescription terse := by
    refine ⟨hd, ?_, ?_⟩
    · rintro _ ⟨⟩ document hm
      rcases List.mem_pair.mp hm with h | h <;> cases h
      · exact plainDocument_serve
      · exact plainDocument_signIn
    · rintro _ ⟨⟩ document hm
      rw [List.mem_singleton.mp hm]
      exact .intro rfl fun _ h => by cases h
  obtain ⟨live, hl⟩ : ∃ live, ofDocument (.obj terse) = .ok live := by
    have hread : (ofDocument (.obj terse)).toBool = true := by decide +kernel
    cases h : ofDocument (.obj terse) with
    | ok live => exact ⟨live, rfl⟩
    | error fault =>
      rw [h] at hread
      cases hread
  have hpermuted : Respelled (.obj terse)
      (.obj (put terse "DefaultActions" (.arr [.obj signIn, .obj serve]))) :=
    .actions rfl (.permute ⟨by decide, by decide⟩ (.swap _ _ _))
  have hwritten : Respelled (.obj (put terse "DefaultActions" (.arr [.obj signIn, .obj serve])))
      (.obj verbose) :=
    .actions rfl (@ActionsRespelled.write [] _ _ _ _ _
      (.setting .oidc (by simp [Action.defaultSettings])) rfl rfl)
  have hactions : ∀ a ∈ forwardOnly.defaultActions,
      ∃ data : Json, data.Distinct ∧ Action.ofDocument data = .ok a := fun a ha => by
    rw [List.mem_singleton.mp ha]
    exact ⟨.obj serve, hserve, rfl⟩
  obtain ⟨live', hl', hsame⟩ := fields_of_respelled ⟨_, rfl, hplain⟩
    (.trans _ _ _ (.rel _ _ hpermuted) (.rel _ _ hwritten)) hl hactions
  exact ⟨live, live', hl, hl', hsame⟩

end AlbListener.Listener

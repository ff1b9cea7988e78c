import Mathlib.Logic.Relation
import AlbListener.Proofs.Listener.Spelling

/-!
# Respelling a listener

A provider is free in how it describes a listener: in the order of members, in the order of actions
that carry their places and in the numbers that these places have, in the order of certificates and
in how often it names one, and in what it writes or leaves out because it has a default. `Respelled`
is one such change; drift is found on the same fields after any number of them, done or undone.

Results:
* `Reorder.reordered`: members that change their order leave a reordered value.
* `isPlain_iff_of_respelled`: a change keeps the parts of a description as they should be.
-/

namespace AlbListener

open Entries (get? put)
open Json (Reordered given)
open AlbListener.Action (PlainDocument ReadAlike SettingsAlike Absorbed withSetting)

/-! ## Members in another order -/

namespace Json

/-- One object, at any depth, has its members in another order. -/
inductive Reorder : Json → Json → Prop
  | here {members members' : List (String × Json)} (p : members.Perm members') :
      Reorder (.obj members) (.obj members')
  | element {before after : List Json} {a b : Json} (h : Reorder a b) :
      Reorder (.arr (before ++ a :: after)) (.arr (before ++ b :: after))
  | member {before after : List (String × Json)} {name : String} {a b : Json} (h : Reorder a b) :
      Reorder (.obj (before ++ (name, a) :: after)) (.obj (before ++ (name, b) :: after))

theorem Reorder.symm {a b : Json} (h : Reorder a b) : Reorder b a := by
  induction h with
  | here p => exact .here p.symm
  | element _ ih => exact .element ih
  | member _ ih => exact .member ih

/-- Members that change their order leave a reordered value. -/
theorem Reorder.reordered {a b : Json} (h : Reorder a b) (hd : a.Distinct) : Reordered a b := by
  induction h with
  | @here members members' p =>
    obtain ⟨hn, hv⟩ := distinct_obj_iff.mp hd
    refine reordered_obj_iff.mpr ⟨hn, hn.perm p, fun name => ?_⟩
    rw [← Entries.get?_eq_of_perm hn p]
    exact Action.rel_refl hd name
  | @element before after a b _ ih =>
    have hd := distinct_arr_iff.mp hd
    refine reordered_arr_iff.mpr (List.rel_append ?_ (.cons (ih (hd a (by simp))) ?_))
    · exact List.forall₂_same.mpr fun x hx => .refl (hd x (List.mem_append_left _ hx))
    · exact List.forall₂_same.mpr fun x hx =>
        .refl (hd x (List.mem_append_right _ (List.mem_cons_of_mem _ hx)))
  | @member before after name a b _ ih =>
    obtain ⟨hn, hv⟩ := distinct_obj_iff.mp hd
    have hab := ih (hv (name, a) (by simp))
    have hnames : Entries.names (before ++ (name, b) :: after) =
        Entries.names (before ++ (name, a) :: after) := by
      simp [Entries.names]
    refine reordered_obj_iff.mpr ⟨hn, by rw [Entries.Distinct, hnames]; exact hn, fun other => ?_⟩
    have hrel := Action.rel_refl hd other
    rw [Entries.get?_append, Entries.get?] at hrel ⊢
    rw [Entries.get?_append, Entries.get?]
    cases hbefore : get? before other with
    | some value =>
      rw [hbefore] at hrel
      exact hrel
    | none =>
      rw [hbefore] at hrel
      simp only [Option.none_or] at hrel ⊢
      split_ifs at hrel ⊢ with hname
      · exact .some hab
      · exact hrel

end Json

namespace Listener

/-! ## One change -/

/-- The place of a document that is a whole number. -/
def number? : Json → Option Int
  | .obj members =>
    match get? members "Order" with
    | some (.int n) => some n
    | _ => none
  | _ => none

/-- Documents that have distinct whole numbers as their places. -/
def Numbered (documents : List Json) : Prop :=
  (∀ document ∈ documents, (number? document).isSome) ∧ (documents.map number?).Nodup

/-- A document whose place has another number. -/
def renumbered (f : Int → Int) (document : Json) : Json :=
  match number? document, document with
  | some n, .obj members => .obj (put members "Order" (.int (f n)))
  | _, document => document

/-- One change to the documents of actions. -/
inductive ActionsRespelled : List Json → List Json → Prop
  | permute {documents documents' : List Json} (hn : Numbered documents)
      (p : documents.Perm documents') : ActionsRespelled documents documents'
  | renumber {documents : List Json} (f : Int → Int) (hn : Numbered documents)
      (hf : ∀ d ∈ documents, ∀ e ∈ documents, ∀ m n, number? d = some m → number? e = some n →
        m < n → f m < f n) : ActionsRespelled documents (documents.map (renumbered f))
  | write {before after : List Json} {members settings : List (String × Json)} {config : String}
      {member : String × Json} (ha : Absorbed config member)
      (hs : get? members config = some (.obj settings)) (hn : get? settings member.1 = none) :
      ActionsRespelled (before ++ .obj members :: after)
        (before ++ .obj (withSetting members config settings member) :: after)

/-- One change to the documents of certificates. -/
inductive CertificatesRespelled : List Json → List Json → Prop
  | relist {documents documents' : List Json} (h : ∀ d, d ∈ documents ↔ d ∈ documents') :
      CertificatesRespelled documents documents'
  | write {before after : List Json} {members : List (String × Json)}
      (hn : get? members "IsDefault" = none) :
      CertificatesRespelled (before ++ .obj members :: after)
        (before ++ .obj (members ++ [("IsDefault", .bool true)]) :: after)

/-- One change to how a description spells a listener. -/
inductive Respelled : Json → Json → Prop
  | reorder {description description' : Json} (h : Json.Reorder description description') :
      Respelled description description'
  | actions {members : List (String × Json)} {documents documents' : List Json}
      (h : get? members "DefaultActions" = some (.arr documents))
      (hr : ActionsRespelled documents documents') :
      Respelled (.obj members) (.obj (put members "DefaultActions" (.arr documents')))
  | certificates {members : List (String × Json)} {documents documents' : List Json}
      (h : get? members "Certificates" = some (.arr documents))
      (hr : CertificatesRespelled documents documents') :
      Respelled (.obj members) (.obj (put members "Certificates" (.arr documents')))

/-! ## Descriptions whose parts are as they should be -/

/-- The document of a certificate whose parts have the types that they should have. -/
inductive PlainCertificate : Json → Prop
  | intro {members : List (String × Json)} {arn : String}
      (ha : get? members "CertificateArn" = some (.str arn))
      (hd : ∀ value, get? members "IsDefault" = some value → ∃ b, value = .bool b) :
      PlainCertificate (.obj members)

/-- A description whose parts have the types that they should have. -/
structure PlainDescription (members : List (String × Json)) : Prop where
  distinct : (Json.obj members).Distinct
  actions : ∀ documents, get? members "DefaultActions" = some (.arr documents) →
    ∀ document, .obj document ∈ documents → PlainDocument document
  certificates : ∀ documents, get? members "Certificates" = some (.arr documents) →
    ∀ document ∈ documents, PlainCertificate document

/-- A value that is such a description. -/
def IsPlain (description : Json) : Prop :=
  ∃ members, description = .obj members ∧ PlainDescription members

/-- The document of an action, or another value, whose parts are as they should be. -/
structure PlainAction (document : Json) : Prop where
  distinct : document.Distinct
  plain : ∀ members, document = .obj members → PlainDocument members

theorem PlainDescription.plainAction {members : List (String × Json)} (h : PlainDescription members)
    {documents : List Json} (hv : get? members "DefaultActions" = some (.arr documents))
    {document : Json} (hm : document ∈ documents) : PlainAction document where
  distinct := Json.distinct_arr_iff.mp (Json.get?_distinct h.distinct hv) document hm
  plain := fun members ho => h.actions documents hv members (ho ▸ hm)

/-! ## Descriptions whose members are reordered -/

variable {members members' : List (String × Json)}

theorem PlainCertificate.reordered {document document' : Json} (hp : PlainCertificate document)
    (h : Reordered document document') : PlainCertificate document' := by
  obtain ⟨harn, hdefault⟩ := hp
  obtain ⟨members', rfl⟩ := h.exists_obj
  obtain ⟨arn', harn', hsame⟩ := h.exists_value harn
  obtain rfl := hsame.eq_of_plain rfl
  refine .intro harn' fun value' hv' => ?_
  obtain ⟨value, hv, hvalue⟩ := h.symm.exists_value hv'
  obtain ⟨b, rfl⟩ := hdefault value hv
  exact ⟨b, (hvalue.symm.eq_of_plain rfl).symm⟩

theorem PlainDescription.reordered (hp : PlainDescription members)
    (h : Reordered (.obj members) (.obj members')) : PlainDescription members' where
  distinct := h.right
  actions := fun documents' hv' document' hm' => by
    obtain ⟨value, hv, hvalue⟩ := h.symm.exists_value hv'
    obtain ⟨documents, rfl, hall⟩ := hvalue.exists_arr
    obtain ⟨document, hm, hdocument⟩ := Reordered.exists_element hall hm'
    obtain ⟨members, rfl⟩ := hdocument.exists_obj
    exact (hp.actions documents hv members hm).reordered hdocument.symm
  certificates := fun documents' hv' document' hm' => by
    obtain ⟨value, hv, hvalue⟩ := h.symm.exists_value hv'
    obtain ⟨documents, rfl, hall⟩ := hvalue.exists_arr
    obtain ⟨document, hm, hdocument⟩ := Reordered.exists_element hall hm'
    exact (hp.certificates documents hv document hm).reordered hdocument.symm

/-! ## Changes keep what is as it should be -/

theorem number?_eq_some_iff {document : Json} {n : Int} :
    number? document = some n ↔
      ∃ members, document = .obj members ∧ get? members "Order" = some (.int n) := by
  cases document with
  | obj members =>
    rw [number?]
    constructor
    · intro h
      split at h
      · cases h
        exact ⟨members, rfl, ‹_›⟩
      · cases h
    · rintro ⟨_, h, hn⟩
      cases h
      rw [hn]
  | _ => exact ⟨nofun, fun ⟨_, h, _⟩ => nomatch h⟩

theorem renumbered_of_number? {document : Json} {members : List (String × Json)} {n : Int}
    (f : Int → Int) (hd : document = .obj members) (hn : get? members "Order" = some (.int n)) :
    renumbered f document = .obj (put members "Order" (.int (f n))) := by
  subst hd
  unfold renumbered
  rw [number?_eq_some_iff.mpr ⟨members, rfl, hn⟩]

theorem PlainAction.put_place {place : Json} (hp : PlainAction (.obj members))
    (h : place.Distinct) : PlainAction (.obj (put members "Order" place)) where
  distinct := Json.put_distinct hp.distinct "Order" h
  plain := fun _ ho => by
    cases ho
    refine (hp.plain members rfl).of_configs fun name hname => Entries.get?_put_of_ne _ _ ?_
    rintro rfl
    revert hname
    decide

theorem plainAction_withSetting_iff {settings : List (String × Json)} {config : String}
    {member : String × Json} (ha : Absorbed config member)
    (hs : get? members config = some (.obj settings)) (hn : get? settings member.1 = none) :
    PlainAction (.obj (withSetting members config settings member)) ↔
      PlainAction (.obj members) := by
  constructor
  · intro hp
    refine ⟨(Action.distinct_withSetting_iff ha hs hn).mp hp.distinct, fun _ ho => ?_⟩
    cases ho
    exact (Action.plainDocument_withSetting_iff ha hs).mp (hp.plain _ rfl)
  · intro hp
    refine ⟨(Action.distinct_withSetting_iff ha hs hn).mpr hp.distinct, fun _ ho => ?_⟩
    cases ho
    exact (Action.plainDocument_withSetting_iff ha hs).mpr (hp.plain _ rfl)

/-- A change to the documents of actions keeps them as they should be. -/
theorem plainActions_iff {documents documents' : List Json}
    (h : ActionsRespelled documents documents') :
    (∀ d ∈ documents, PlainAction d) ↔ ∀ d ∈ documents', PlainAction d := by
  cases h with
  | permute _ p => exact forall_congr' fun d => by rw [p.mem_iff]
  | renumber f hn _ =>
    rw [List.forall_mem_map]
    refine forall₂_congr fun d hd => ?_
    obtain ⟨n, hnumber⟩ := Option.isSome_iff_exists.mp (hn.1 d hd)
    obtain ⟨members, hobj, hplace⟩ := number?_eq_some_iff.mp hnumber
    rw [renumbered_of_number? f hobj hplace, hobj]
    constructor
    · exact fun hp => hp.put_place (.plain rfl)
    · intro hp
      have hback := hp.put_place (Json.Distinct.plain (rfl : (Json.int n).isCompound = false))
      rwa [Entries.put_put_of_get? hplace] at hback
  | write ha hs hn =>
    simp only [List.forall_mem_append, List.forall_mem_cons, plainAction_withSetting_iff ha hs hn]

/-- The document of a certificate that is as it should be, also as a value. -/
def PlainEntry (document : Json) : Prop := document.Distinct ∧ PlainCertificate document

theorem PlainDescription.plainEntry (h : PlainDescription members) {documents : List Json}
    (hv : get? members "Certificates" = some (.arr documents)) : ∀ d ∈ documents, PlainEntry d :=
  fun d hm => ⟨Json.distinct_arr_iff.mp (Json.get?_distinct h.distinct hv) d hm,
    h.certificates documents hv d hm⟩

theorem plainEntry_write_iff (hn : get? members "IsDefault" = none) :
    PlainEntry (.obj (members ++ [("IsDefault", .bool true)])) ↔ PlainEntry (.obj members) := by
  have hkept : get? (members ++ [("IsDefault", .bool true)]) "CertificateArn" =
      get? members "CertificateArn" := by
    rw [Action.get?_concat, if_neg (by decide), Option.or_none]
  constructor
  · rintro ⟨hd, @⟨_, arn, harn, -⟩⟩
    obtain ⟨hnames, hvalues⟩ := Json.distinct_obj_iff.mp hd
    rw [Entries.Distinct, Entries.names_append] at hnames
    refine ⟨.obj (List.Nodup.of_append_left hnames) fun member hm =>
      hvalues member (List.mem_append_left _ hm), .intro
      (hkept ▸ harn) ?_⟩
    rintro value hv
    rw [hn] at hv
    cases hv
  · rintro ⟨hd, @⟨_, arn, harn, -⟩⟩
    refine ⟨Action.distinct_concat hd (.plain rfl) hn, .intro (hkept.trans harn) ?_⟩
    rw [Action.get?_concat, hn]
    rintro value ⟨⟩
    exact ⟨true, rfl⟩

/-- A change to the documents of certificates keeps them as they should be. -/
theorem plainEntries_iff {documents documents' : List Json}
    (h : CertificatesRespelled documents documents') :
    (∀ d ∈ documents, PlainEntry d) ↔ ∀ d ∈ documents', PlainEntry d := by
  cases h with
  | relist h => exact forall_congr' fun d => by rw [h]
  | write hn =>
    simp only [List.forall_mem_append, List.forall_mem_cons, plainEntry_write_iff hn]

theorem PlainDescription.put_actions {documents : List Json} (hp : PlainDescription members)
    (h : ∀ d ∈ documents, PlainAction d) :
    PlainDescription (put members "DefaultActions" (.arr documents)) where
  distinct := Json.put_distinct hp.distinct _ (.arr fun d hd => (h d hd).distinct)
  actions := fun found hfound document hm => by
    rw [Entries.get?_put_self, Option.some.injEq, Json.arr.injEq] at hfound
    exact (h _ (hfound ▸ hm)).plain document rfl
  certificates := by
    rw [Entries.get?_put_of_ne _ _ (by decide)]
    exact hp.certificates

theorem PlainDescription.put_certificates {documents : List Json} (hp : PlainDescription members)
    (h : ∀ d ∈ documents, PlainEntry d) :
    PlainDescription (put members "Certificates" (.arr documents)) where
  distinct := Json.put_distinct hp.distinct _ (.arr fun d hd => (h d hd).1)
  actions := by
    rw [Entries.get?_put_of_ne _ _ (by decide)]
    exact hp.actions
  certificates := fun found hfound document hm => by
    rw [Entries.get?_put_self, Option.some.injEq, Json.arr.injEq] at hfound
    exact (h _ (hfound ▸ hm)).2

/-- A change keeps the parts of a description as they should be. -/
theorem isPlain_iff_of_respelled {description description' : Json}
    (h : Respelled description description') : IsPlain description ↔ IsPlain description' := by
  have hreorder {a b : Json} (h : Json.Reorder a b) : IsPlain a → IsPlain b := by
    rintro ⟨members, rfl, hp⟩
    have hr := h.reordered hp.distinct
    obtain ⟨members', rfl⟩ := hr.exists_obj
    exact ⟨members', rfl, hp.reordered hr⟩
  have hobj (members : List (String × Json)) :
      IsPlain (.obj members) ↔ PlainDescription members :=
    ⟨fun ⟨_, ho, hp⟩ => Json.obj.inj ho ▸ hp, fun hp => ⟨members, rfl, hp⟩⟩
  cases h with
  | reorder h => exact ⟨hreorder h, hreorder h.symm⟩
  | actions hv hr =>
    rw [hobj, hobj]
    constructor
    · exact fun hp => hp.put_actions ((plainActions_iff hr).mp fun _ hm => hp.plainAction hv hm)
    · intro hp
      have hback := hp.put_actions ((plainActions_iff hr).mpr fun _ hm =>
        hp.plainAction (Entries.get?_put_self _ _ _) hm)
      rwa [Entries.put_put_of_get? hv] at hback
  | certificates hv hr =>
    rw [hobj, hobj]
    constructor
    · exact fun hp => hp.put_certificates ((plainEntries_iff hr).mp (hp.plainEntry hv))
    · intro hp
      have hback := hp.put_certificates ((plainEntries_iff hr).mpr
        (hp.plainEntry (Entries.get?_put_self _ _ _)))
      rwa [Entries.put_put_of_get? hv] at hback

end Listener

end AlbListener

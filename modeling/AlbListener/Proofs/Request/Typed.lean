import AlbListener.Proofs.Listener.Port
import AlbListener.Request.Basic

/-!
# Requests of the declared sorts

The values of a request are kept as documents, of any sort. `Request.Typed` says that they are
of the sorts that the fields stand for: texts for names, arns and annotations, and numbers or
texts for ports. Every request whose document has the form of one is like that.

Results:
* `Annotations.exists_lookup`: an annotation that is a text can be read.
* `Backend.checkKey_of_typed`: such a backend can be looked up.
-/

namespace AlbListener

/-- Annotations all of whose values are texts. -/
def Annotations.Textual (annotations : Annotations) : Prop :=
  ∀ entry ∈ annotations.values, ∃ s, entry.2 = .str s

/-- A backend whose service is named by a text and whose port is a number or a text. -/
structure Backend.Typed (backend : Backend) : Prop where
  serviceName : ∃ s, backend.serviceName = .str s
  servicePort : backend.servicePort.IsWhole ∨ ∃ s, backend.servicePort = .str s

/-- No target group is given by an object that names a member twice. -/
def TargetGroups.Distinct (groups : TargetGroups) : Prop := ∀ entry ∈ groups, entry.2.Distinct

/-- Target groups of such backends, given by their arns. -/
def TargetGroups.Typed (groups : TargetGroups) : Prop :=
  ∀ entry ∈ groups, entry.1.Typed ∧ ∃ arn, entry.2 = .str arn

/-- A request for a port, given as a whole number, of a load balancer, given by its arn. -/
structure Request.Addressed (request : Request) : Prop where
  loadBalancerArn : ∃ arn, request.loadBalancerArn = .str arn
  port : request.port.port.IsWhole

/-- A request whose values are of the sorts that its fields stand for. -/
structure Request.Typed (request : Request) : Prop extends Request.Addressed request where
  annotations : request.annotations.Textual
  backend : ∀ backend, request.ingress.backend = some backend → backend.Typed
  targetGroups : request.targetGroups.Typed

theorem Annotations.exists_lookup {annotations : Annotations} (h : annotations.Textual)
    (name : String) : ∃ found, annotations.lookup name = .ok found := by
  unfold lookup
  split
  · exact ⟨_, rfl⟩
  · exact ⟨_, rfl⟩
  · exact ⟨_, rfl⟩
  · rename_i hnull htext hget
    obtain ⟨s, hs⟩ := h _ (Entries.mem_of_get? hget)
    exact absurd hs (htext s)

theorem Backend.checkKey_of_typed {backend : Backend} (h : backend.Typed) :
    backend.checkKey = .ok () := by
  obtain ⟨s, hs⟩ := h.serviceName
  have hport : backend.servicePort.isCompound = false := by
    rcases h.servicePort with hp | ⟨port, hp⟩
    · exact Json.isCompound_of_isWhole hp
    · rw [hp]
      rfl
  have hname : backend.serviceName.isCompound = false := by
    rw [hs]
    rfl
  rw [checkKey, hname, if_neg Bool.false_ne_true, hport, if_neg Bool.false_ne_true]

namespace Request

variable {request : Request}

theorem Typed.distinct (h : request.Typed) : request.targetGroups.Distinct := by
  intro entry hm
  obtain ⟨-, arn, harn⟩ := h.targetGroups entry hm
  rw [harn]
  exact Json.distinct_str arn

theorem Typed.with_instance (h : request.Typed) (live? : Option Listener) :
    { request with instance? := live? }.Typed :=
  ⟨⟨h.loadBalancerArn, h.port⟩, h.annotations, h.backend, h.targetGroups⟩

theorem Addressed.equals_loadBalancerArn (h : request.Addressed) :
    request.loadBalancerArn.equals request.loadBalancerArn = true := by
  obtain ⟨arn, harn⟩ := h.loadBalancerArn
  rw [harn]
  exact Json.equals_str_self arn

end Request

end AlbListener

import AlbListener.Json.Access

/-!
# Certificates

The certificates of a listener, one of which may be marked as the default. The provider
defines no order on them and may name one twice, so they are compared as a set.

Results:
* `sameSet_eq_true_iff`: two lists hold the same certificates if each one of either occurs in
  the other.
-/

namespace AlbListener

/-- A certificate and whether it is the default one. -/
structure Certificate where
  arn : Json
  isDefault : Json

namespace Certificate

/-- A certificate in provider calls (`Certificate.to_api`). -/
def toApi (c : Certificate) : Json :=
  .obj [("CertificateArn", c.arn), ("IsDefault", c.isDefault)]

/-- The certificate that a document describes; it is the default one if nothing is said. -/
def ofDocument (data : Json) : Except Fault Certificate := do
  let arn ← data.member "CertificateArn"
  return { arn, isDefault := ← data.getD "IsDefault" (.bool true) }

/-- Whether two certificates are the same. -/
def same (a b : Certificate) : Bool := a.arn.same b.arn && a.isDefault.same b.isDefault

/-- Whether every certificate of one list occurs in another. -/
def subset (as bs : List Certificate) : Bool := as.all fun a => bs.any a.same

/-- Whether two lists hold the same certificates (`_certificate_set`). -/
def sameSet (as bs : List Certificate) : Bool := subset as bs && subset bs as

/-- A certificate can be a member of a set only if it has no parts that are arrays or
    objects. -/
def checkMember (c : Certificate) : Except Fault Unit :=
  if c.arn.isCompound then .error (.mismatch (.hash c.arn.kind))
  else if c.isDefault.isCompound then .error (.mismatch (.hash c.isDefault.kind))
  else .ok ()

theorem sameSet_eq_true_iff {as bs : List Certificate} :
    sameSet as bs = true ↔
      (∀ a ∈ as, ∃ b ∈ bs, a.same b = true) ∧ ∀ b ∈ bs, ∃ a ∈ as, b.same a = true := by
  simp [sameSet, subset]

end Certificate

end AlbListener

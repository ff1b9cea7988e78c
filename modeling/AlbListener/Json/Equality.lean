import AlbListener.Json.Basic

/-!
# Equality of JSON values

Numbers are compared by what they amount to, whether they are written as an integer, as a
double or as a boolean, which counts as one or zero. Arrays are compared in order and objects
by their members, whatever the order. A NaN inside a document is the same value as any other
NaN; compared on its own it equals nothing.

Results:
* `sameScalar_refl`: a value without parts is the same as itself.
-/

namespace AlbListener.Json

/-- The number that a value amounts to. -/
def number? : Json → Option Number
  | .bool b => some (.ofInt (if b then 1 else 0))
  | .int n => some (.ofInt n)
  | .float x => some x.number
  | _ => none

/-- Whether two values without parts are the same. -/
def sameScalar : Json → Json → Bool
  | .null, .null => true
  | .str a, .str b => a == b
  | a, b =>
    match a.number?, b.number? with
    | some x, some y => x == y
    | _, _ => false

mutual

/-- Whether two values are the same as parts of a document. -/
def same : Json → Json → Bool
  | .arr as, .arr bs => sameAll as bs
  | .obj as, .obj bs => as.length == bs.length && sameMembers as bs
  | a, b => sameScalar a b

/-- Whether two lists hold the same values in the same order. -/
def sameAll : List Json → List Json → Bool
  | [], [] => true
  | a :: as, b :: bs => same a b && sameAll as bs
  | _, _ => false

/-- Whether every member is the same in a second list of members. -/
def sameMembers : List (String × Json) → List (String × Json) → Bool
  | [], _ => true
  | (name, a) :: as, bs =>
    (match Entries.get? bs name with
      | some b => same a b
      | none => false)
      && sameMembers as bs

end

/-- Whether a value is the number NaN. -/
def isNaN : Json → Bool
  | .float .nan => true
  | _ => false

/-- Whether two values that stand on their own are equal. -/
def equals (a b : Json) : Bool := !a.isNaN && same a b

/-- Whether a value is an object or an array, which are compared by their parts and cannot
    be looked up in a table. -/
def isCompound : Json → Bool
  | .arr _ | .obj _ => true
  | _ => false

theorem sameScalar_refl {a : Json} (h : a.isCompound = false) : sameScalar a a = true := by
  cases a <;> simp_all [sameScalar, number?, isCompound]

end AlbListener.Json

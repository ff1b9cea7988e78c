/-!
# Double-precision numbers

A finite double is a sign, a significand below 2^53 and an exponent, and stands for
`± significand · 2^exponent / 2^1074`: every finite double is a whole number of units of
2^-1074. Values are compared as integers on that scale (`Number`), integers and doubles alike.

Results:
* `Number.ofInt_inj`: two integers are the same number only if they are equal.
* `Number.lt_ofInt_iff`: integers are ordered as numbers the way they are as integers.
-/

namespace AlbListener

/-- A double-precision number. -/
inductive Binary64
  | finite (negative : Bool) (significand exponent : Nat)
  | infinite (negative : Bool)
  | nan
  deriving DecidableEq, Repr, Inhabited

/-- A power of two. -/
def twoTo (n : Nat) : Nat := Nat.pow 2 n

theorem twoTo_pos (n : Nat) : 0 < twoTo n := by
  induction n with
  | zero => exact Nat.one_pos
  | succ n ih =>
    have e : twoTo (n + 1) = twoTo n * 2 := rfl
    omega

/-- A power of ten. -/
def tenTo (n : Nat) : Nat := Nat.pow 10 n

/-- The smallest positive double is two to the power of minus this. -/
def unitBits : Nat := 1074

/-- The number of units of 2^-1074 in one. -/
def unitsPerOne : Nat := twoTo unitBits

theorem unitsPerOne_pos : 0 < unitsPerOne := twoTo_pos unitBits

/-- A number, a finite one by how many units of 2^-1074 it holds. -/
inductive Number
  | finite (scaled : Int)
  | infinite (negative : Bool)
  | nan
  deriving DecidableEq

namespace Number

/-- An integer as a number. -/
def ofInt (n : Int) : Number := .finite (n * unitsPerOne)

/-- Whether one number is less than another; a NaN is neither less nor greater. -/
def lt : Number → Number → Bool
  | .finite a, .finite b => a < b
  | .finite _, .infinite negative => !negative
  | .infinite negative, .finite _ => negative
  | .infinite a, .infinite b => a && !b
  | _, _ => false

theorem ofInt_inj {a b : Int} : ofInt a = ofInt b ↔ a = b := by
  have h : (unitsPerOne : Int) ≠ 0 := Int.ofNat_ne_zero.mpr (Nat.ne_of_gt unitsPerOne_pos)
  simp only [ofInt, Number.finite.injEq]
  exact ⟨fun e => Int.eq_of_mul_eq_mul_right h e, fun e => by rw [e]⟩

theorem lt_ofInt_iff {a b : Int} : lt (ofInt a) (ofInt b) = true ↔ a < b := by
  have h : (0 : Int) < unitsPerOne := Int.natCast_pos.mpr unitsPerOne_pos
  simp only [lt, ofInt, decide_eq_true_eq]
  exact ⟨fun e => Int.lt_of_mul_lt_mul_right e (Int.le_of_lt h),
    fun e => Int.mul_lt_mul_of_pos_right e h⟩

end Number

namespace Binary64

/-- The sign as a factor. -/
def sign (negative : Bool) (n : Nat) : Int := if negative then -(n : Int) else n

/-- The exact value of a double. -/
def number : Binary64 → Number
  | .finite negative significand exponent =>
    .finite (sign negative (significand * twoTo exponent))
  | .infinite negative => .infinite negative
  | .nan => .nan

/-- Whether a double is a zero of either sign. -/
def isZero (x : Binary64) : Bool := x.number == .finite 0

/-- Whether a double is a whole number. -/
def isIntegral : Binary64 → Bool
  | .finite _ significand exponent => significand * twoTo exponent % unitsPerOne == 0
  | _ => false

/-- The whole part of a finite double, which is cut toward zero. -/
def toInt? : Binary64 → Option Int
  | .finite negative significand exponent =>
    some (sign negative (significand * twoTo exponent / unitsPerOne))
  | _ => none

end Binary64

end AlbListener

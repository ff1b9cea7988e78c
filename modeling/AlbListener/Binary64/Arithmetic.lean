import AlbListener.Binary64.Rounding

/-!
# Sums and products of doubles

A sum and a product are worked out exactly, in units of 2^-1074, and then rounded once to the
nearest double.

Results:
* `mul_nan`, `add_nan`: nothing makes a number of a NaN.
-/

namespace AlbListener.Binary64

/-- The size of a finite double in units of 2^-1074. -/
def units (significand exponent : Nat) : Nat := significand * twoTo exponent

/-- The same double with the other sign. -/
def negate : Binary64 → Binary64
  | .finite negative significand exponent => .finite (!negative) significand exponent
  | .infinite negative => .infinite (!negative)
  | .nan => .nan

/-- The double nearest to an integer. -/
def ofInt (n : Int) : Binary64 := ofRatio (n < 0) n.natAbs 1

/-- The sum of two doubles. A sum of zero is positive, unless both zeros are negative. -/
def add : Binary64 → Binary64 → Binary64
  | .nan, _ => .nan
  | _, .nan => .nan
  | .infinite a, .infinite b => if a = b then .infinite a else .nan
  | .infinite a, .finite .. => .infinite a
  | .finite .., .infinite b => .infinite b
  | .finite a s e, .finite b t f =>
    let sum := sign a (units s e) + sign b (units t f)
    if sum = 0 then .finite (a && b) 0 0 else ofRatio (sum < 0) sum.natAbs unitsPerOne

/-- The product of two doubles. -/
def mul : Binary64 → Binary64 → Binary64
  | .nan, _ => .nan
  | _, .nan => .nan
  | .infinite a, .infinite b => .infinite (a != b)
  | .infinite a, .finite b s _ => if s = 0 then .nan else .infinite (a != b)
  | .finite a s _, .infinite b => if s = 0 then .nan else .infinite (a != b)
  | .finite a s e, .finite b t f =>
    ofRatio (a != b) (units s e * units t f) (unitsPerOne * unitsPerOne)

theorem add_nan (x : Binary64) : add x .nan = .nan := by cases x <;> rfl

theorem mul_nan (x : Binary64) : mul x .nan = .nan := by cases x <;> rfl

end AlbListener.Binary64

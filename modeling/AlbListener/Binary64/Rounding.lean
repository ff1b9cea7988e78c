import AlbListener.Binary64.Basic

/-!
# The double nearest to a decimal

A decimal number is read as the double nearest to it; of two doubles equally near, the one
with the even significand. From 2^1024 - 2^970 on the result is infinite.

Results:
* `two_mul_roundEven_le`, `le_two_mul_roundEven`: rounding a fraction moves it by at most
  one half.
* `roundEven_of_dvd`: a whole number is rounded to itself.
-/

namespace AlbListener

/-- The whole number nearest to a fraction, the even one of two equally near. -/
def roundEven (num den : Nat) : Nat :=
  let q := num / den
  let r := num % den
  if 2 * r < den ∨ (2 * r = den ∧ q % 2 = 0) then q else q + 1

theorem roundEven_of_dvd (n : Nat) {den : Nat} (h : 0 < den) : roundEven (n * den) den = n := by
  simp [roundEven, Nat.mul_div_cancel _ h, h]

theorem two_mul_roundEven_le (num : Nat) {den : Nat} (h : 0 < den) :
    2 * (roundEven num den * den) ≤ 2 * num + den := by
  have e := Nat.div_add_mod num den
  have r := Nat.mod_lt num h
  rw [Nat.mul_comm] at e
  simp only [roundEven]
  split
  · omega
  · rw [Nat.add_mul]; omega

theorem le_two_mul_roundEven (num : Nat) {den : Nat} (h : 0 < den) :
    2 * num ≤ 2 * (roundEven num den * den) + den := by
  have e := Nat.div_add_mod num den
  have r := Nat.mod_lt num h
  rw [Nat.mul_comm] at e
  simp only [roundEven]
  split
  · omega
  · rw [Nat.add_mul]; omega

namespace Binary64

/-- The double with a significand of at most 2^53, which carries into the exponent. -/
def carry (negative : Bool) (significand exponent : Nat) : Binary64 :=
  let (s, e) :=
    if significand = twoTo 53 then (twoTo 52, exponent + 1) else (significand, exponent)
  if e ≤ 2045 then .finite negative s e else .infinite negative

/-- The double nearest to a fraction. -/
def ofRatio (negative : Bool) (num den : Nat) : Binary64 :=
  let scaled := num * unitsPerOne
  let q := scaled / den
  let exponent := if q < twoTo 53 then 0 else q.log2 - 52
  carry negative (roundEven scaled (den * twoTo exponent)) exponent

/-- The double nearest to `± digits · 10^exponent`. Beyond 10^400 every such number is
    infinite, and below 2^-1080 zero, so that no power of ten need be larger. -/
def ofDecimal (negative : Bool) (digits : Nat) (exponent : Int) : Binary64 :=
  if digits = 0 then .finite negative 0 0
  else if exponent > 400 then .infinite negative
  else if (digits.log2 : Int) + 1 + 3 * exponent < -1080 then .finite negative 0 0
  else if 0 ≤ exponent then ofRatio negative (digits * tenTo exponent.toNat) 1
  else ofRatio negative digits (tenTo (-exponent).toNat)

end Binary64

end AlbListener

import AlbListener.Binary64.Rounding

/-!
# Decimal digits of a double

The shortest digits are the fewest that read back as the same double and, of those, the ones
nearest to it; of two equally near the even ones. The numbers that read back as a double form
an interval around it, whose ends belong to it when the significand is even.
-/

namespace AlbListener

/-- The number `digits · 10^exponent`. -/
structure Decimal where
  digits : Nat
  exponent : Int
  deriving DecidableEq, Repr

namespace Decimal

/-- The same number without zeros at the end of the digits, at most `fuel` of them. -/
def reduceWithin : Nat → Decimal → Decimal
  | 0, d => d
  | fuel + 1, d =>
    if d.digits % 10 = 0 then reduceWithin fuel ⟨d.digits / 10, d.exponent + 1⟩ else d

/-- The same number without zeros at the end of the digits. -/
def reduce (d : Decimal) : Decimal :=
  if d.digits = 0 then ⟨0, 0⟩ else reduceWithin (d.digits.log2 + 1) d

/-- A power of ten as a fraction. -/
def powerOfTen (exponent : Int) : Nat × Nat :=
  if 0 ≤ exponent then (tenTo exponent.toNat, 1) else (1, tenTo (-exponent).toNat)

/-- The least `k` from a start on, at most `fuel` steps away, with `num / den < 10^k`. -/
def magnitudeFrom (num den : Nat) : Nat → Int → Int
  | 0, k => k
  | fuel + 1, k =>
    let (up, down) := powerOfTen k
    if num * down < up * den then k else magnitudeFrom num den fuel (k + 1)

/-- How many digits a positive fraction has before the point; zero or less if it begins with
    that many zeros behind it. The binary logarithm gives it up to two. -/
def magnitude (num den : Nat) : Int :=
  let log2 := (num.log2 : Int) - den.log2
  magnitudeFrom num den 4 (log2 * 30103 / 100000 - 1)

end Decimal

namespace Binary64

/-- The values that round to the double `significand · 2^exponent`, in quarters of a unit:
    the lower end, the upper end and whether the ends belong to it. -/
def interval (significand exponent : Nat) : Nat × Nat × Bool :=
  let value := 4 * significand * twoTo exponent
  let below := if significand = twoTo 52 ∧ 0 < exponent then twoTo exponent else 2 * twoTo exponent
  (value - below, value + 2 * twoTo exponent, significand % 2 == 0)

/-- The numeral of `count` digits that rounds to the double and lies nearest to it, if one
    does; `k` is the number of digits before the point. -/
def nearestOf? (significand exponent : Nat) (k : Int) (count : Nat) : Option Decimal :=
  let (lower, upper, closed) := interval significand exponent
  let value := 4 * significand * twoTo exponent
  let (up, down) := Decimal.powerOfTen (k - count)
  let unit := 4 * unitsPerOne * up
  let within (c : Nat) : Bool :=
    if closed then lower * down ≤ c * unit && c * unit ≤ upper * down
    else lower * down < c * unit && c * unit < upper * down
  let low := value * down / unit
  let toLow := value * down - low * unit
  let toHigh := (low + 1) * unit - value * down
  let digits? :=
    match within low, within (low + 1) with
    | false, false => none
    | true, false => some low
    | false, true => some (low + 1)
    | true, true =>
      if toLow < toHigh ∨ (toLow = toHigh ∧ low % 2 = 0) then some low else some (low + 1)
  digits?.map fun digits => ⟨digits, k - count⟩

/-- The shortest decimal that reads back as a positive finite double. Seventeen digits are
    always enough. -/
def shortest (significand exponent : Nat) : Decimal :=
  if significand = 0 then ⟨0, 0⟩ else
    let k := Decimal.magnitude (significand * twoTo exponent) unitsPerOne
    match (List.range 17).findSome? fun n => nearestOf? significand exponent k (n + 1) with
    | some d => d.reduce
    | none => ⟨significand * twoTo exponent, 0⟩

/-- The decimal of at most `count` digits nearest to a finite double, the even one of two. -/
def rounded (significand exponent count : Nat) : Decimal :=
  if significand = 0 then ⟨0, 0⟩ else
    let k := Decimal.magnitude (significand * twoTo exponent) unitsPerOne
    let (up, down) := Decimal.powerOfTen (k - count)
    Decimal.reduce ⟨roundEven (significand * twoTo exponent * down) (unitsPerOne * up), k - count⟩

end Binary64

end AlbListener

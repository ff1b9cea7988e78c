import AlbListener.Binary64.Shortest
import AlbListener.Text.Numeral

/-!
# Doubles as text

A number is written positionally or with an exponent, depending on the place of its first
digit. `Layout` holds the places where that changes and whether a whole number keeps `.0`.
Numbers in messages and in JSON have the shortest digits that read back; cells of a table have
six digits.
-/

namespace AlbListener.Binary64

/-- How a decimal is laid out: the least exponent written positionally, the least one above
    it that is not, and whether a whole number ends in `.0`. -/
structure Layout where
  first : Int
  last : Int
  pointZero : Bool

/-- Numbers from 10^-4 up to 10^16 are positional, and a whole one ends in `.0`. -/
def shortestLayout : Layout := ⟨-4, 16, true⟩

/-- Numbers from 10^-4 up to 10^6 are positional. -/
def sixDigitLayout : Layout := ⟨-4, 6, false⟩

/-- An exponent with its sign and at least two digits. -/
def exponentText (e : Int) : String :=
  let digits := Text.natText e.natAbs
  (if e < 0 then "-" else "+") ++ (if digits.length < 2 then "0" ++ digits else digits)

/-- A nonnegative decimal as text. -/
def Layout.text (layout : Layout) (d : Decimal) : String :=
  let digits := Nat.toDigits 10 d.digits
  let point := d.exponent + digits.length
  let exponent := point - 1
  if exponent < layout.first ∨ layout.last ≤ exponent then
    let fraction := digits.drop 1
    String.ofList (digits.take 1 ++ (if fraction.isEmpty then [] else '.' :: fraction))
      ++ "e" ++ exponentText exponent
  else if point ≤ 0 then
    "0." ++ String.ofList (List.replicate (-point).toNat '0' ++ digits)
  else if digits.length ≤ point.toNat then
    String.ofList (digits ++ List.replicate (point.toNat - digits.length) '0')
      ++ (if layout.pointZero then ".0" else "")
  else
    String.ofList (digits.take point.toNat) ++ "." ++ String.ofList (digits.drop point.toNat)

/-- The texts of the values that have no digits. -/
structure Special where
  infinity : String
  negativeInfinity : String
  notANumber : String

/-- A double as text, a finite one by its digits. -/
def textWith (special : Special) (layout : Layout) (digits : Nat → Nat → Decimal) :
    Binary64 → String
  | .finite negative significand exponent =>
    (if negative then "-" else "") ++ layout.text (digits significand exponent)
  | .infinite negative => if negative then special.negativeInfinity else special.infinity
  | .nan => special.notANumber

/-- The text of a double in messages. -/
def text : Binary64 → String := textWith ⟨"inf", "-inf", "nan"⟩ shortestLayout shortest

/-- The text of a double in JSON. -/
def jsonText : Binary64 → String :=
  textWith ⟨"Infinity", "-Infinity", "NaN"⟩ shortestLayout shortest

/-- The text of a double with at most six digits. -/
def sixDigitText : Binary64 → String :=
  textWith ⟨"inf", "-inf", "nan"⟩ sixDigitLayout fun s e => rounded s e 6

end AlbListener.Binary64

import AlbListener.Text.Hex
import AlbListener.Text.Numeral

/-!
# Numerals in other bases

An integer in base two, eight, ten or sixteen, with a sign or without and with blanks around
it. Digits below ten may be of any script. A zero and a letter may say which base it is: `b`
for two, `o` for eight and `x` for sixteen.

Results:
* `readInBase?_nil`: without digits there is no integer.
-/

namespace AlbListener.Text

/-- The value of a digit of any script or of a hexadecimal digit. -/
def digitValue? (c : Char) : Option Nat := (decimalValue? c).or (hexValue? c)

/-- The integer that digits in a base stand for; there has to be one at least. -/
def digitsInBase? (base : Nat) : List Char → Option Nat
  | [] => none
  | cs => cs.foldlM (fun n c => (digitValue? c).bind fun d =>
      if d < base then some (base * n + d) else none) 0

/-- The letter that says which base it is. -/
def baseLetter? (base : Nat) : Option Char :=
  if base = 2 then some 'b' else if base = 8 then some 'o' else if base = 16 then some 'x' else none

/-- The characters without a zero and the letter of a base in front. -/
def dropBase (base : Nat) : List Char → List Char
  | zero :: letter :: rest =>
    if decimalValue? zero == some 0 && some letter.toLower == baseLetter? base then rest
    else zero :: letter :: rest
  | cs => cs

/-- The integer that a text in a base stands for. Only in base ten are digits counted. -/
def readInBase? (base : Nat) (s : String) : Option Int :=
  if base = 10 ∧ (tooManyDigits? s).isSome then none else
    match trimMargins s with
    | '-' :: cs => (digitsInBase? base (dropBase base cs)).map fun (n : Nat) => -(n : Int)
    | '+' :: cs => (digitsInBase? base (dropBase base cs)).map Int.ofNat
    | cs => (digitsInBase? base (dropBase base cs)).map Int.ofNat

theorem readInBase?_nil (base : Nat) : readInBase? base "" = none := ite_self none

example : readInBase? 8 "0o17" = some 15 := by decide

example : readInBase? 16 "-1F" = some (-31) := by decide

example : readInBase? 2 "12" = none := by decide

end AlbListener.Text

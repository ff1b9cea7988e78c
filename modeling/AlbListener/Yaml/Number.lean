import AlbListener.Binary64.Arithmetic
import AlbListener.Binary64.Reader
import AlbListener.Fault
import AlbListener.Text.Radix

/-!
# Numbers

The integer or double that a scalar stands for. Underscores do not count. An integer is
binary behind `0b`, hexadecimal behind `0x` and octal behind a zero; colons divide the places
of a number in base sixty, whose last place may have a fraction. A number in base sixty is
summed from its last place on, and every step is rounded.

Results:
* `integer_zero`, `integer_underscore`: zero may be followed by underscores, which alone are no
  integer.
-/

namespace AlbListener.Yaml

/-- The characters behind a sign, if there is one, and whether it is a minus. There has to be a
    character at least. -/
def splitSign : List Char → Except Fault (Bool × List Char)
  | [] => .error (.pastEnd .str)
  | '-' :: rest => .ok (true, rest)
  | '+' :: rest => .ok (false, rest)
  | cs => .ok (false, cs)

/-! ## Integers -/

/-- The integer that digits in a base stand for. Decimal digits may not be too many. -/
def integerInBase (base : Nat) (cs : List Char) : Except Fault Int :=
  match Text.readInBase? base (String.ofList cs) with
  | some n => .ok n
  | none => .error (.invalid (.ofNumeral base (String.ofList cs)))

/-- The integer that the places of a number in base sixty stand for. -/
def sexagesimalInteger (cs : List Char) : Except Fault Int := do
  let places ← (cs.splitOn ':').mapM (integerInBase 10)
  return places.foldl (fun n place => 60 * n + place) 0

/-- The integer that characters without sign and underscores stand for. -/
def unsignedInteger : List Char → Except Fault Int
  | [] => .error (.pastEnd .str)
  | ['0'] => .ok 0
  | '0' :: 'b' :: rest => integerInBase 2 rest
  | '0' :: 'x' :: rest => integerInBase 16 rest
  | '0' :: rest => integerInBase 8 ('0' :: rest)
  | cs => if cs.contains ':' then sexagesimalInteger cs else integerInBase 10 cs

/-- The integer that a scalar stands for. -/
def integer (s : String) : Except Fault Int := do
  let (negative, digits) ← splitSign (s.toList.filter (· != '_'))
  let n ← unsignedInteger digits
  return if negative then -n else n

/-! ## Doubles -/

/-- The double that a decimal numeral stands for. -/
def decimal (cs : List Char) : Except Fault Binary64 :=
  match Binary64.read? (String.ofList cs) with
  | some x => .ok x
  | none => .error (.invalid (.number (String.ofList cs)))

/-- The sum of places in base sixty and another double, the last place first; `weight` is what a
    unit of it counts. -/
def sumPlaces (weight : Nat) (sum : Binary64) : List Binary64 → Except Fault Binary64
  | [] => .ok sum
  | place :: rest =>
    match Binary64.ofInt weight with
    | .finite negative significand exponent =>
      sumPlaces (60 * weight) (sum.add (place.mul (.finite negative significand exponent))) rest
    | _ => .error .tooLarge

/-- The double that the places of a number in base sixty stand for. -/
def sexagesimalNumber (cs : List Char) : Except Fault Binary64 := do
  let places ← (cs.splitOn ':').mapM decimal
  sumPlaces 1 (.finite false 0 0) places.reverse

/-- The double that a scalar stands for. -/
def number (s : String) : Except Fault Binary64 := do
  let cs := (s.toList.filter (· != '_')).map Char.toLower
  let (negative, digits) ← splitSign cs
  let x ←
    if digits = ".inf".toList then pure (.infinite false)
    else if digits = ".nan".toList then pure .nan
    else if digits.contains ':' then sexagesimalNumber digits
    else decimal digits
  return if negative then x.negate else x

theorem integer_zero : integer "0__" = .ok 0 := by rfl

theorem integer_underscore : integer "_" = .error (.pastEnd .str) := by rfl

end AlbListener.Yaml

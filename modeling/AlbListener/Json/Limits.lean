import AlbListener.Json.Basic
import AlbListener.Text.Numeral

/-!
# Limits

What a program can read and write has limits. An integer has a numeral only if that has no more
digits than `Text.digitLimit`, and a value is read only if it is not nested too deep: every array
and object takes a call inside another one, and only so many calls may be open. How many are left
depends on where in the program a text is read, so the limits are a parameter of whatever they
stop.

Results:
* `inside?_unlimited`, `exceededBy?_unlimited`: without limits nothing is refused.
-/

namespace AlbListener

/-- The most digits of an integer, how deep arrays and objects may be nested, and how deep the
    objects may be that are taken as settings. -/
structure Limits where
  digits? : Option Nat
  nesting? : Option Nat
  settings? : Option Nat
  deriving DecidableEq, Repr

namespace Limits

/-- No limits. -/
def unlimited : Limits := ⟨none, none, none⟩

/-- The limits where a thousand calls may be open, of which the program has opened up to a hundred
    itself. Settings take two calls for every object. -/
def standard : Limits :=
  { digits? := some Text.digitLimit, nesting? := some 900, settings? := some 450 }

/-- The most digits, if an integer has more. -/
def exceededBy? (limits : Limits) (n : Int) : Option Nat :=
  limits.digits?.filter (· < Text.digitCount n)

/-- The limits inside an array or an object, if one can be opened. -/
def inside? (limits : Limits) : Option Limits :=
  match limits.nesting? with
  | none => some limits
  | some 0 => none
  | some (depth + 1) => some { limits with nesting? := some depth }

theorem inside?_unlimited : unlimited.inside? = some unlimited := rfl

theorem exceededBy?_unlimited (n : Int) : unlimited.exceededBy? n = none := rfl

end Limits

namespace Json

mutual

/-- How deep objects are nested in a value, those inside arrays left aside. -/
def objectDepth : Json → Nat
  | .obj members => membersDepth members + 1
  | _ => 0

/-- How deep objects are nested in the values of members. -/
def membersDepth : List (String × Json) → Nat
  | [] => 0
  | (_, value) :: rest => max (objectDepth value) (membersDepth rest)

end

end Json

end AlbListener

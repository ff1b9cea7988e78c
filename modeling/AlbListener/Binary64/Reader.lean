import AlbListener.Binary64.Rounding
import AlbListener.Text.Numeral

/-!
# Reading doubles

A double is read from a decimal numeral with an optional sign, point and exponent, or from
one of the words for infinity and NaN in letters of any case. As in integers, blanks may
stand around it, the digits may be of any script, and single underscores between digits.

Results:
* `dropUnderscores?_of_forall`: a text without underscores is left as it is.
-/

namespace AlbListener.Binary64

/-- A digit of any script as the ASCII digit of the same value. -/
def asciiDigit (c : Char) : Char :=
  match Text.decimalValue? c with
  | some d => d.digitChar
  | none => c

/-- The characters without underscores, each of which has to stand between two digits; `after`
    tells whether a digit stands in front. -/
def dropUnderscores? (after : Bool) : List Char → Option (List Char)
  | [] => some []
  | '_' :: c :: rest =>
    if after && c.isDigit then (dropUnderscores? true rest).map (c :: ·) else none
  | ['_'] => none
  | c :: rest => (dropUnderscores? c.isDigit rest).map (c :: ·)

/-- The exponent that a text stands for; there is none in an empty text. -/
def exponentOf? : List Char → Option Int
  | [] => some 0
  | e :: rest =>
    if e = 'e' ∨ e = 'E' then
      match rest with
      | '-' :: digits => (digitsOf? digits).map fun n => -(Int.ofNat n)
      | '+' :: digits => (digitsOf? digits).map Int.ofNat
      | digits => (digitsOf? digits).map Int.ofNat
    else none
where
  digitsOf? (digits : List Char) : Option Nat :=
    if !digits.isEmpty && digits.all Char.isDigit then some (Nat.ofDigitChars 10 digits 0)
    else none

/-- The double that a numeral without its sign stands for. -/
def ofNumeral? (negative : Bool) (cs : List Char) : Option Binary64 :=
  let whole := cs.takeWhile Char.isDigit
  let rest := cs.dropWhile Char.isDigit
  let (fraction, rest) :=
    match rest with
    | '.' :: rest => (rest.takeWhile Char.isDigit, rest.dropWhile Char.isDigit)
    | rest => ([], rest)
  if whole.isEmpty && fraction.isEmpty then none else
    (exponentOf? rest).map fun exponent =>
      ofDecimal negative (Nat.ofDigitChars 10 (whole ++ fraction) 0) (exponent - fraction.length)

/-- The double that a word or a numeral without its sign stands for. -/
def ofUnsigned? (negative : Bool) (cs : List Char) : Option Binary64 :=
  let word := String.ofList (cs.map Char.toLower)
  if word = "inf" ∨ word = "infinity" then some (.infinite negative)
  else if word = "nan" then some .nan
  else ofNumeral? negative cs

/-- The double that a list of characters stands for. -/
def ofSigned? : List Char → Option Binary64
  | '-' :: rest => ofUnsigned? true rest
  | '+' :: rest => ofUnsigned? false rest
  | rest => ofUnsigned? false rest

/-- The double that a text stands for (`float`). -/
def read? (s : String) : Option Binary64 :=
  (dropUnderscores? false ((Text.trimMargins s).map asciiDigit)).bind ofSigned?

theorem dropUnderscores?_of_forall {cs : List Char} (h : ∀ c ∈ cs, c ≠ '_') (after : Bool) :
    dropUnderscores? after cs = some cs := by
  induction cs generalizing after with
  | nil => rfl
  | cons c rest ih =>
    have hc := h c (by simp)
    rw [dropUnderscores?]
    · rw [ih fun d hd => h d (by simp [hd])]
      rfl
    · rintro _ _ rfl; exact absurd rfl hc
    · rintro rfl; exact absurd rfl hc

end AlbListener.Binary64

import AlbListener.Text.Hex
import AlbListener.Text.Printable

/-!
# Quoted text

A text is quoted with single quotes, or with double quotes if it holds a single quote and no
double one. The quote in use, the backslash, the line feed, the carriage return and the tab
are written with a backslash, and every other character that is not printable by its code in
two, four or eight hexadecimal digits.

Results:
* `quote_eq`: which of the two quotes is used.
* `escapeQuoted_of_isPrintable`: a printable character other than the quote and the backslash
  stands for itself.
-/

namespace AlbListener.Text

/-- The quote for a text. -/
def quote (cs : List Char) : Char :=
  if cs.contains '\'' && !cs.contains '"' then '"' else '\''

theorem quote_eq (cs : List Char) :
    quote cs = if '\'' ∈ cs ∧ '"' ∉ cs then '"' else '\'' := by
  simp [quote]

/-- A character by its code, in the shortest of the three widths. -/
def escapeCode (n : Nat) : List Char :=
  if n ≤ 0xFF then '\\' :: 'x' :: fixedHex 2 n
  else if n ≤ 0xFFFF then '\\' :: 'u' :: fixedHex 4 n
  else '\\' :: 'U' :: fixedHex 8 n

/-- A character as written between quotes `q`. -/
def escapeQuoted (q c : Char) : List Char :=
  if c = q ∨ c = '\\' then ['\\', c]
  else if c = '\t' then ['\\', 't']
  else if c = '\n' then ['\\', 'n']
  else if c = '\r' then ['\\', 'r']
  else if isPrintable c then [c]
  else escapeCode c.toNat

theorem escapeQuoted_of_isPrintable {q c : Char} (hq : c ≠ q) (hb : c ≠ '\\')
    (h : isPrintable c = true) : escapeQuoted q c = [c] := by
  have ht : c ≠ '\t' := by rintro rfl; exact absurd h (by decide)
  have hn : c ≠ '\n' := by rintro rfl; exact absurd h (by decide)
  have hr : c ≠ '\r' := by rintro rfl; exact absurd h (by decide)
  simp [escapeQuoted, hq, hb, ht, hn, hr, h]

/-- A text between quotes (`repr`). -/
def quoted (s : String) : String :=
  let q := quote s.toList
  String.ofList (q :: s.toList.flatMap (escapeQuoted q) ++ [q])

end AlbListener.Text

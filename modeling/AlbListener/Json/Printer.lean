import AlbListener.Binary64.Text
import AlbListener.Json.Basic
import AlbListener.Text.Hex
import AlbListener.Text.Numeral

/-!
# JSON text

A value is written on one line, with a space after each comma and colon, or over several
lines that are indented by two spaces for each level. The text is ASCII: other characters,
and the control characters, are written by their UTF-16 code units.

Results:
* `printable_of_mem_escape`: what a character is written as is printable ASCII.
-/

namespace AlbListener

namespace Json

/-- A UTF-16 code unit as an escape. -/
def escapeUnit (n : Nat) : List Char := '\\' :: 'u' :: Text.fixedHex 4 n

/-- A character as written in a string. -/
def escape (c : Char) : List Char :=
  if c = '"' then ['\\', '"']
  else if c = '\\' then ['\\', '\\']
  else if c = '\n' then ['\\', 'n']
  else if c = '\r' then ['\\', 'r']
  else if c = '\t' then ['\\', 't']
  else if c = '\x0c' then ['\\', 'f']
  else if c = '\x08' then ['\\', 'b']
  else if 0x20 ≤ c.toNat ∧ c.toNat ≤ 0x7E then [c]
  else if c.toNat < 0x10000 then escapeUnit c.toNat
  else
    let n := c.toNat - 0x10000
    escapeUnit (0xD800 + n / 0x400) ++ escapeUnit (0xDC00 + n % 0x400)

/-- A string between its quotes. -/
def stringChars (s : String) : List Char := '"' :: s.toList.flatMap escape ++ ['"']

/-- The line end and indentation of a level, if the text has several lines. -/
def lineBreak : Option Nat → List Char
  | none => []
  | some level => '\n' :: List.replicate (2 * level) ' '

/-- What stands between two elements or members. -/
def separator : Option Nat → List Char
  | none => [',', ' ']
  | some level => ',' :: lineBreak (some level)

/-- The level inside an array or object. -/
def inner (level : Option Nat) : Option Nat := level.map (· + 1)

mutual

/-- A value as text at a level of indentation, or on one line. -/
def chars (level : Option Nat) : Json → List Char
  | .null => ['n', 'u', 'l', 'l']
  | .bool true => ['t', 'r', 'u', 'e']
  | .bool false => ['f', 'a', 'l', 's', 'e']
  | .int n => Text.intChars n
  | .float x => x.jsonText.toList
  | .str s => stringChars s
  | .arr [] => ['[', ']']
  | .arr (value :: rest) =>
    '[' :: lineBreak (inner level) ++ chars (inner level) value ++ moreElements level rest
  | .obj [] => ['\x7b', '\x7d']
  | .obj ((name, value) :: rest) =>
    '\x7b' :: lineBreak (inner level) ++ stringChars name ++ [':', ' ']
      ++ chars (inner level) value ++ moreMembers level rest

/-- The rest of an array after an element. -/
def moreElements (level : Option Nat) : List Json → List Char
  | [] => lineBreak level ++ [']']
  | value :: rest =>
    separator (inner level) ++ chars (inner level) value ++ moreElements level rest

/-- The rest of an object after a member. -/
def moreMembers (level : Option Nat) : List (String × Json) → List Char
  | [] => lineBreak level ++ ['\x7d']
  | (name, value) :: rest =>
    separator (inner level) ++ stringChars name ++ [':', ' ']
      ++ chars (inner level) value ++ moreMembers level rest

end

/-- A value as JSON text on one line (`json.dumps`). -/
def render (value : Json) : String := String.ofList (value.chars none)

/-- A value as JSON text with a line for each element and member (`json.dumps` with an indent). -/
def renderIndented (value : Json) : String := String.ofList (value.chars (some 0))

theorem printable_of_mem_escapeUnit {n : Nat} {c : Char} (h : c ∈ escapeUnit n) :
    0x20 ≤ c.toNat ∧ c.toNat ≤ 0x7E := by
  simp only [escapeUnit, List.mem_cons] at h
  rcases h with rfl | rfl | h
  · decide
  · decide
  · exact Text.printable_of_mem_fixedHex h

theorem printable_of_mem_pair {letter c : Char} (hl : 0x20 ≤ letter.toNat ∧ letter.toNat ≤ 0x7E)
    (h : c ∈ ['\\', letter]) : 0x20 ≤ c.toNat ∧ c.toNat ≤ 0x7E := by
  rcases List.mem_cons.mp h with rfl | h
  · decide
  · exact List.mem_singleton.mp h ▸ hl

theorem printable_of_mem_escape {c d : Char} (h : d ∈ escape c) :
    0x20 ≤ d.toNat ∧ d.toNat ≤ 0x7E := by
  unfold escape at h
  iterate 7
    split at h
    case isTrue => exact printable_of_mem_pair (by decide) h
  split at h
  case isTrue hc => exact List.mem_singleton.mp h ▸ hc
  split at h
  · exact printable_of_mem_escapeUnit h
  · rcases List.mem_append.mp h with h | h
    · exact printable_of_mem_escapeUnit h
    · exact printable_of_mem_escapeUnit h

end Json

end AlbListener

import AlbListener.Binary64.Text
import AlbListener.Json.Basic
import AlbListener.Yaml.Plain

/-!
# Writing YAML

A mapping is written as a block document: its names in order, a collection below its name and
a sequence at the column of the name above it. A text is written plain where it would be read
as the same text, otherwise between single quotes, and between double quotes if it holds
anything but printable ASCII and line feeds. Lines longer than 80 columns are folded at
spaces.

Results:
* `tag_of_isPlain`: what is written plain is read as a text.
* `fold_none`, `doubleChars_none`: a text that may not be folded stays on its line.
-/

namespace AlbListener.Yaml

/-- The column beyond which a line is folded. -/
def bestWidth : Nat := 80

/-- The length from which on a name does not stand before its colon. -/
def longName : Nat := 123

/-! ## The style of a text -/

/-- Whether a character separates words or lines. -/
def isGap (c : Char) : Bool := c == ' ' || c == '\t' || c == '\n' || c == '\r' || c == '\x00'

/-- Whether a character cannot begin a plain text. -/
def isOpeningMark (c : Char) : Bool := "#,[]\x7b\x7d&*!|>'\"%@`".toList.contains c

/-- Whether a text begins with a mark of the block structure. -/
def opensBlock : List Char → Bool
  | [] => false
  | c :: rest =>
    isOpeningMark c || ((c == '?' || c == ':' || c == '-') && rest.head?.all isGap)

/-- Whether a mark of the block structure stands behind a character. -/
def holdsMark (before : Char) : List Char → Bool
  | [] => false
  | c :: rest =>
    (c == ':' && rest.head?.all isGap) || (c == '#' && isGap before) || holdsMark c rest

/-- Whether a text begins like a mark between documents. -/
def opensDocument (cs : List Char) : Bool :=
  ['-', '-', '-'].isPrefixOf cs || ['.', '.', '.'].isPrefixOf cs

/-- Whether a text would not be read as a single plain scalar. -/
def looksStructured : List Char → Bool
  | [] => false
  | c :: rest => opensDocument (c :: rest) || opensBlock (c :: rest) || holdsMark c rest

/-- Whether a character is written by an escape. -/
def isEscaped (c : Char) : Bool :=
  c == '"' || c == '\\' || !(0x20 ≤ c.toNat && c.toNat ≤ 0x7E)

/-- Whether one character is followed by another somewhere. -/
def holdsPair (a b : Char) : List Char → Bool
  | c :: d :: rest => (c == a && d == b) || holdsPair a b (d :: rest)
  | _ => false

/-- Whether a text needs double quotes. -/
def needsDouble (cs : List Char) : Bool :=
  cs.any (fun c => c != '\n' && !(0x20 ≤ c.toNat && c.toNat ≤ 0x7E))
    || holdsPair ' ' '\n' cs || holdsPair '\n' ' ' cs

/-- Whether a text is written without quotes. -/
def isPlain (s : String) : Bool :=
  let cs := s.toList
  tag s == .text && !needsDouble cs && !looksStructured cs && !cs.contains '\n'
    && cs.head? != some ' ' && cs.getLast? != some ' '

/-- Whether a name stands before its colon, without a mark of its own. -/
def isSimpleName (name : String) : Bool :=
  name.length < longName && name != "" &&
    !name.toList.any fun c => c == '\n' || c == '\x85' || c == '\u2028' || c == '\u2029'

/-! ## Folding -/

/-- A new line with an indentation. -/
def newLine (indent : Nat) : List Char := '\n' :: List.replicate indent ' '

/-- The runs of spaces, of line feeds and of other characters in a text. -/
def runs (cs : List Char) : List (List Char) :=
  cs.splitBy fun a b => (a == ' ') == (b == ' ') && (a == '\n') == (b == '\n')

/-- The runs of a text that begins at a column. If there is an indentation to fold to, a single
    space beyond the best width becomes a new line, unless it stands at an end of the text,
    and line feeds get another one in front. -/
def fold (indent? : Option Nat) (isFirst : Bool) (column : Nat) : List (List Char) → List Char
  | [] => []
  | run :: rest =>
    match indent? with
    | none => run ++ fold none false (column + run.length) rest
    | some indent =>
      if run == [' '] && bestWidth < column && !isFirst && !rest.isEmpty then
        newLine indent ++ fold indent? false indent rest
      else if run.head? == some '\n' then
        run ++ newLine indent ++ fold indent? false indent rest
      else run ++ fold indent? false (column + run.length) rest

/-- The letter of a short escape. -/
def escapeLetter? (c : Char) : Option Char :=
  match c with
  | '\x00' => some '0'
  | '\x07' => some 'a'
  | '\x08' => some 'b'
  | '\t' => some 't'
  | '\n' => some 'n'
  | '\x0b' => some 'v'
  | '\x0c' => some 'f'
  | '\r' => some 'r'
  | '\x1b' => some 'e'
  | '"' => some '"'
  | '\\' => some '\\'
  | '\x85' => some 'N'
  | '\xa0' => some '_'
  | '\u2028' => some 'L'
  | '\u2029' => some 'P'
  | _ => none

/-- A character between double quotes. -/
def escape (c : Char) : List Char :=
  if !isEscaped c then [c] else
    match escapeLetter? c with
    | some letter => ['\\', letter]
    | none =>
      if c.toNat ≤ 0xFF then '\\' :: 'x' :: Text.upperHex 2 c.toNat
      else if c.toNat ≤ 0xFFFF then '\\' :: 'u' :: Text.upperHex 4 c.toNat
      else '\\' :: 'U' :: Text.upperHex 8 c.toNat

/-- The rest of a text between double quotes, which may be its beginning or stand behind an
    escape. A line is folded before a space or next to an escape, with a backslash at its end
    and another before a space on the next line. -/
def doubleChars (indent? : Option Nat) (isFirst afterEscape : Bool) (column : Nat) :
    List Char → List Char
  | [] => []
  | c :: rest =>
    let written := escape c
    match indent? with
    | none => written ++ doubleChars none false false column rest
    | some indent =>
      let isInner := !isFirst && !rest.isEmpty
      if isEscaped c then
        let column := column + written.length
        if isInner && bestWidth + 1 < column then
          if rest.head? == some ' ' then
            written ++ '\\' :: newLine indent ++ '\\' :: doubleChars indent? false true (indent + 1) rest
          else written ++ '\\' :: newLine indent ++ doubleChars indent? false true indent rest
        else written ++ doubleChars indent? false true column rest
      else if isInner && (c == ' ' || afterEscape) && bestWidth < column then
        if c == ' ' then
          '\\' :: newLine indent ++ '\\' :: c :: doubleChars indent? false false (indent + 2) rest
        else '\\' :: newLine indent ++ c :: doubleChars indent? false false (indent + 1) rest
      else c :: doubleChars indent? false false (column + 1) rest

/-- A text that begins at a column, and is folded to an indentation if there is one. -/
def textChars (indent? : Option Nat) (column : Nat) (s : String) : List Char :=
  let cs := s.toList
  if isPlain s then fold indent? true column (runs cs)
  else if needsDouble cs then '"' :: doubleChars indent? true false (column + 1) cs ++ ['"']
  else
    let quoted := cs.flatMap fun c => if c = '\'' then ['\'', '\''] else [c]
    '\'' :: fold indent? true (column + 1) (runs quoted) ++ ['\'']

/-! ## Values -/

/-- A double; one with an exponent has a point in front of it. -/
def numberText : Binary64 → String
  | .nan => ".nan"
  | .infinite negative => if negative then "-.inf" else ".inf"
  | x =>
    let cs := x.text.toList
    if cs.contains '.' then x.text
    else String.ofList (cs.flatMap fun c => if c = 'e' then ['.', '0', 'e'] else [c])

/-- A value that is not a collection, which begins at a column. -/
def scalarChars (indent column : Nat) : Json → List Char
  | .null => ['n', 'u', 'l', 'l']
  | .bool b => (if b then "true" else "false").toList
  | .int n => Text.intChars n
  | .float x => (numberText x).toList
  | .str s => textChars (some indent) column s
  | .arr _ => ['[', ']']
  | .obj _ => ['\x7b', '\x7d']

/-- What a value stands behind: a name, whose colon ends before a column, or a mark of the
    block structure. -/
inductive Place
  | name (column : Nat)
  | mark

namespace Place

/-- The indentation of a sequence in a mapping, or another block, at an indentation. -/
def sequenceIndent (indent : Nat) : Place → Nat
  | .name _ => indent
  | .mark => indent + 2

/-- What leads to the first line of a block at an indentation. -/
def lead (indent : Nat) : Place → List Char
  | .name _ => newLine indent
  | .mark => [' ']

/-- The column behind the name or mark in a block at an indentation. -/
def column (indent : Nat) : Place → Nat
  | .name column => column
  | .mark => indent + 1

end Place

/-- A name in a mapping at an indentation, with its colon, and the place of its value. -/
def nameChars (indent : Nat) (name : String) : List Char × Place :=
  if isSimpleName name then
    let written := textChars none indent name ++ [':']
    (written, .name (indent + written.length))
  else
    ('?' :: ' ' :: textChars (some (indent + 2)) (indent + 2) name ++ newLine indent ++ [':'],
      .mark)

mutual

/-- A value at a place in a block at an indentation. -/
def valueChars (place : Place) (indent : Nat) : Json → List Char
  | .arr (value :: rest) =>
    let inner := place.sequenceIndent indent
    place.lead inner ++ '-' :: valueChars .mark inner value ++ moreElements inner rest
  | .obj ((name, value) :: rest) =>
    let (written, inside) := nameChars (indent + 2) name
    place.lead (indent + 2) ++ written ++ valueChars inside (indent + 2) value
      ++ moreMembers (indent + 2) rest
  | value => ' ' :: scalarChars (indent + 2) (place.column indent + 1) value

/-- The further elements of a sequence at an indentation. -/
def moreElements (indent : Nat) : List Json → List Char
  | [] => []
  | value :: rest =>
    newLine indent ++ '-' :: valueChars .mark indent value ++ moreElements indent rest

/-- The further members of a mapping at an indentation. -/
def moreMembers (indent : Nat) : List (String × Json) → List Char
  | [] => []
  | (name, value) :: rest =>
    let (written, inside) := nameChars indent name
    newLine indent ++ written ++ valueChars inside indent value ++ moreMembers indent rest

end

/-- A mapping as a document, with all names in order (`yaml.dump`). -/
def render (members : List (String × Json)) : String :=
  match (Json.obj members).sorted with
  | .obj (first :: rest) => String.ofList ((moreMembers 0 (first :: rest)).drop 1 ++ ['\n'])
  | _ => "\x7b\x7d\n"

theorem tag_of_isPlain {s : String} (h : isPlain s = true) : tag s = .text := by
  simp only [isPlain, Bool.and_eq_true, beq_iff_eq] at h
  exact h.1.1.1.1.1

theorem fold_none (isFirst : Bool) (column : Nat) (parts : List (List Char)) :
    fold none isFirst column parts = parts.flatten := by
  induction parts generalizing isFirst column with
  | nil => rfl
  | cons run rest ih => simp [fold, ih]

theorem doubleChars_none (isFirst afterEscape : Bool) (column : Nat) (cs : List Char) :
    doubleChars none isFirst afterEscape column cs = cs.flatMap escape := by
  induction cs generalizing isFirst afterEscape column with
  | nil => rfl
  | cons c rest ih => simp [doubleChars, ih]

end AlbListener.Yaml

import AlbListener.Text.Lines

/-!
# Characters with their places

YAML gives a meaning to the line and column of what is read, so a text is read as a list of
characters that know their places. All ends of lines become line feeds, except the separators
U+2028 and U+2029, which end a line as they are. A byte order mark takes no column, and at the
front of the text it is dropped.

Results:
* `map_char_placedFrom`: placing characters does not change them.
-/

namespace AlbListener.Yaml

/-- A character, with the number of characters before it, its line and its column. -/
structure Placed where
  char : Char
  index : Nat
  line : Nat
  column : Nat

/-- Whether a character ends a line. -/
def isBreak (c : Char) : Bool := c == '\n' || c == '\u2028' || c == '\u2029'

/-- Whether a character is a space or a tab. -/
def isSpaceOrTab (c : Char) : Bool := c == ' ' || c == '\t'

/-- Whether a character separates what stands on both sides. -/
def isSeparator (c : Char) : Bool := isSpaceOrTab c || isBreak c

/-- Whether a character separates words: a space or a line end. -/
def isSpaceOrBreak (c : Char) : Bool := c == ' ' || isBreak c

/-- The mark of the order of bytes, which is no part of a text. -/
def byteOrderMark : Char := '\uFEFF'

/-- The characters with their places, from a place on. -/
def placedFrom (index line column : Nat) : List Char → List Placed
  | [] => []
  | c :: rest =>
    ⟨c, index, line, column⟩ ::
      if isBreak c then placedFrom (index + 1) (line + 1) 0 rest
      else placedFrom (index + 1) line (if c == byteOrderMark then column else column + 1) rest

/-- The characters of a text with their places, without a byte order mark at the front. -/
def placed (s : String) : List Placed :=
  let cs := (Text.unifyLineEnds s.toList).map fun c => if c == '\x85' then '\n' else c
  match cs with
  | c :: rest => if c == byteOrderMark then placedFrom 1 0 0 rest else placedFrom 0 0 0 (c :: rest)
  | [] => []

/-- Whether a separator or the end of the text comes first. -/
def atSeparator (cs : List Placed) : Bool := cs.head?.all fun p => isSeparator p.char

/-- Whether a space, a line end or the end of the text comes first. -/
def atSpaceOrBreak (cs : List Placed) : Bool := cs.head?.all fun p => isSpaceOrBreak p.char

/-- Whether a mark between documents comes first. -/
def atDocument (cs : List Placed) : Bool :=
  let mark := (cs.take 3).map Placed.char
  (mark == ['-', '-', '-'] || mark == ['.', '.', '.']) && atSeparator (cs.drop 3)

/-- What follows the spaces, comments and line ends at the front, and whether there was a line
    end. -/
def skipBlanks (inComment sawBreak : Bool) : List Placed → List Placed × Bool
  | [] => ([], sawBreak)
  | p :: rest =>
    if isBreak p.char then skipBlanks false true rest
    else if inComment || p.char == ' ' then skipBlanks inComment sawBreak rest
    else if p.char == '#' then skipBlanks true sawBreak rest
    else (p :: rest, sawBreak)

theorem map_char_placedFrom (index line column : Nat) (cs : List Char) :
    (placedFrom index line column cs).map Placed.char = cs := by
  induction cs generalizing index line column with
  | nil => rfl
  | cons c rest ih =>
    simp only [placedFrom, List.map_cons]
    split <;> simp [ih]

end AlbListener.Yaml

import AlbListener.Binary64.Reader
import AlbListener.Binary64.Text
import AlbListener.Fault
import AlbListener.Text.Control
import AlbListener.Text.Lines

/-!
# Columns of a table

A column is laid out by the most general of what its cells hold (`Content`): nothing, truth
values, integers, numbers or texts. A text that reads as one of these counts as one, also if
commas separate the thousands of its digits. Columns of numbers are aligned at the point, all
others to the left. Commands to the terminal take no room and are not read.

Results:
* `rank_join`: the more general of two contents does not depend on their order.
* `length_padLeft`, `length_padRight`: padded text is as wide as it should be.
-/

namespace AlbListener.Table

/-- What cells hold, the more general contents last. -/
inductive Content
  | nothing
  | truth
  | integer
  | number
  | text
  deriving DecidableEq, Repr

namespace Content

/-- How general a content is. -/
def rank : Content → Nat
  | .nothing => 0
  | .truth => 1
  | .integer => 2
  | .number => 3
  | .text => 4

/-- The more general of two contents. -/
def join (a b : Content) : Content := if a.rank ≤ b.rank then b else a

theorem rank_join (a b : Content) : (join a b).rank = max a.rank b.rank := by
  cases a <;> cases b <;> rfl

/-- Whether a column of such contents is aligned at the point. -/
def isAligned : Content → Bool
  | .integer | .number => true
  | .nothing | .truth | .text => false

end Content

/-! ## Cells -/

/-- Whether a text is one of the short words for infinity and NaN. -/
def isSpecialWord (s : String) : Bool :=
  ["inf", "-inf", "nan"].contains (String.ofList (s.toList.map Char.toLower))

/-- Whether a text reads as a number; a numeral that is too large does not. -/
def isNumeral (s : String) : Bool :=
  match Binary64.read? s with
  | some (.finite ..) => true
  | some _ => isSpecialWord s
  | none => false

/-- Whether a text reads as an integer. -/
def isInteger (s : String) : Bool := (Text.readInt? s).isSome

/-- Whether a list of characters is an integer in groups of three digits behind a first group
    of up to three. -/
def isGroupedInteger (cs : List Char) : Bool :=
  let unsigned :=
    match cs with
    | '+' :: rest => rest
    | '-' :: rest => rest
    | cs => cs
  match unsigned.splitOn ',' with
  | first :: groups =>
    !first.isEmpty && first.length ≤ 3 && first.all Char.isDigit
      && groups.all fun group => group.length = 3 && group.all Char.isDigit
  | [] => false

/-- Whether a text is a number in groups of three digits, perhaps with a point, or only has
    digits behind the point. A line feed at the end is not looked at. -/
def isGrouped (s : String) : Bool :=
  let cs := if s.toList.getLast? = some '\n' then s.toList.dropLast else s.toList
  let whole := cs.takeWhile (· != '.')
  match cs.dropWhile (· != '.') with
  | _ :: fraction =>
    fraction.all Char.isDigit
      && (isGroupedInteger whole || (whole.isEmpty && !fraction.isEmpty))
  | [] => whole.isEmpty || isGroupedInteger whole

/-- What a text holds, of which commands to the terminal are no part. -/
def contentOfText (s : String) : Content :=
  if s = "" then .nothing
  else if s = "True" ∨ s = "False" then .truth
  else if isInteger s || (isGrouped s && !s.toList.contains '.') then .integer
  else if isNumeral s || isGrouped s then .number
  else .text

/-- What a cell holds; an empty cell fits everywhere. -/
def contentOf : Json → Content
  | .null => .nothing
  | .bool _ => .truth
  | .int _ => .integer
  | .float _ => .number
  | .str s => contentOfText (Text.visible s)
  | .arr _ | .obj _ => .text

/-- The most general content of a list of cells, a truth value at least. -/
def commonContent (cells : List Json) : Content :=
  cells.foldl (fun content cell => content.join (contentOf cell)) .truth

/-! ## Texts of cells -/

/-- The double that a text stands for. -/
def numberOfText (s : String) : Except Fault Binary64 :=
  match Binary64.read? s with
  | some x => .ok x
  | none => .error (.invalid (.number s))

/-- A list of characters in which each occurrence of a part is replaced. -/
def replaceAll (part new : List Char) : List Char → List Char
  | [] => []
  | c :: rest =>
    if !part.isEmpty && part.isPrefixOf (c :: rest) then
      new ++ replaceAll part new (rest.drop (part.length - 1))
    else c :: replaceAll part new rest
termination_by cs => cs.length
decreasing_by all_goals simp; try omega

/-- The text of a numeral, with six digits. In a table with commands to the terminal they stay
    around it; in another one commas between digits are passed over. -/
def numeralText (hasCommands : Bool) (s : String) : Except Fault String :=
  if hasCommands then do
    let shown := Text.visible s
    let text := (← numberOfText shown).sixDigitText
    return String.ofList (replaceAll shown.toList text.toList s.toList)
  else return (← numberOfText (String.ofList (s.toList.filter (· != ',')))).sixDigitText

/-- A coloured integer at the front, behind which something other than a printable character
    stands: the command for the colour, and the digits as a number. -/
def coloured? : List Char → Option (List Char)
  | '\x1b' :: '[' :: rest =>
    let code := rest.takeWhile Char.isDigit
    let marks := (rest.drop code.length).takeWhile fun c => c == 'm' || c == 'M'
    let rest := rest.drop (code.length + marks.length)
    let digits := rest.takeWhile Char.isDigit
    let rest := rest.drop digits.length
    let isEnded := rest.head?.any fun c => c < ' ' || '~' < c || c == '\\'
    if !code.isEmpty && !marks.isEmpty && !digits.isEmpty && isEnded then
      some ('\x1b' :: '[' :: code ++ marks
        ++ (Text.natText (Nat.ofDigitChars 10 digits 0)).toList ++ rest)
    else none
  | _ => none

/-- The first coloured integer in a list of characters, and what is behind it. -/
def findColoured? : List Char → Option (List Char)
  | [] => none
  | c :: rest => (coloured? (c :: rest)).or (findColoured? rest)

/-- The text of an integer. What stands in front of a coloured integer is dropped. -/
def integerText (s : String) : String :=
  match findColoured? s.toList with
  | some cs => String.ofList cs
  | none => s

/-- The text of a cell in a column of some content, in a table with or without commands to the
    terminal. -/
def cellText (hasCommands : Bool) (content : Content) : Json → Except Fault String
  | .null => .ok ""
  | .str s =>
    if s = "" then .ok ""
    else
      match content with
      | .number => numeralText hasCommands s
      | .integer => .ok (integerText s)
      | _ => .ok s
  | .bool b =>
    .ok (if content = .number then if b then "1" else "0" else (Json.bool b).display)
  | .int n =>
    if content = .number then
      match Binary64.ofDecimal (n < 0) n.natAbs 0 with
      | .infinite _ => .error .infinite
      | x => .ok x.sixDigitText
    else .ok (Json.int n).display
  | .float x => .ok (if content = .number then x.sixDigitText else x.text)
  | value => .ok value.display

/-! ## Alignment -/

/-- Text with blanks in front up to a width. -/
def padLeft (width : Nat) (s : String) : String :=
  String.ofList (List.replicate (width - s.length) ' ') ++ s

/-- Text with blanks behind up to a width. -/
def padRight (width : Nat) (s : String) : String :=
  s ++ String.ofList (List.replicate (width - s.length) ' ')

/-- The characters behind the last occurrence of a mark. -/
def lengthAfterLast? (mark : Char → Bool) (s : String) : Option Nat :=
  if s.toList.any mark then some (s.toList.reverse.takeWhile (!mark ·)).length else none

/-- The number of characters behind the point of a numeral, or behind the mark of its
    exponent if it has no point. -/
def places? (s : String) : Option Nat :=
  if isInteger s || !(isNumeral s || isGrouped s) then none
  else (lengthAfterLast? (· == '.') s).or (lengthAfterLast? (fun c => c == 'e' || c == 'E') s)

/-- The room that the point of a numeral and what is behind it take. -/
def roomBehind (s : String) : Nat :=
  match places? s with
  | some n => n + 1
  | none => 0

/-- Texts with blanks behind them, so that their points are above each other once their ends
    are. -/
def alignPoints (texts : List String) : List String :=
  let roomOf (s : String) : Nat := roomBehind (Text.visible s)
  let room := (texts.map roomOf).foldl max 0
  texts.map fun s => padRight (s.length + (room - roomOf s)) s

theorem length_padLeft {width : Nat} {s : String} (h : s.length ≤ width) :
    (padLeft width s).length = width := by
  simp [padLeft]
  omega

theorem length_padRight {width : Nat} {s : String} (h : s.length ≤ width) :
    (padRight width s).length = width := by
  simp [padRight]
  omega

end AlbListener.Table

import AlbListener.Table.Column

/-!
# Grids

A table with a frame around every cell. The lines of a cell stand below each other; a row is
as high as its highest cell, and a column as wide as its widest line. A double rule separates
the names of the columns from the rows. A row whose first or second cell is a mark stands for
a rule between the rows beside it.

Results:
* `length_line`, `length_rowLine`: a rule is as wide as the columns and their frame, and so
  is a line of a row whose pieces fill their columns.
* `withMarks_replicate`: without marks the rows stay as they are.
-/

namespace AlbListener.Table

/-- A column with its name, if the columns have names. -/
structure Column where
  name? : Option String
  cells : List Json

/-- A column that is laid out: its width, the lines of its name and of each of its cells, all
    padded to the width. -/
structure Strip where
  width : Nat
  name? : Option (List String)
  blocks : List (List String)

/-- What is known of all cells of a table: whether one has several lines, and whether one holds
    commands to the terminal. -/
structure Look where
  hasLines : Bool
  hasCommands : Bool

/-! ## Layout of a column -/

/-- The lines of a text as they count for its width. -/
def widthLines (s : String) : List String :=
  (s.toList.splitOnP fun c => c == '\n' || c == '\r').map String.ofList

/-- The width of a line, in which commands to the terminal take no room. -/
def lineWidth (s : String) : Nat := (Text.visible s).length

/-- The width of a text that may have several lines. -/
def widthOf (s : String) : Nat := ((widthLines s).map lineWidth).foldl max 0

/-- Whether a text has several lines. -/
def isMultiline (s : String) : Bool := s.toList.any fun c => c == '\n' || c == '\r'

namespace Look

/-- The width of a text. -/
def width (look : Look) (s : String) : Nat := if look.hasLines then widthOf s else lineWidth s

/-- The lines of a text as they are drawn. -/
def drawnLines (look : Look) (s : String) : List String :=
  if look.hasLines then Text.splitLines s else [s]

/-- A text whose lines are padded to a width. Where there are commands to the terminal, the room
    that they seem to take is counted by the lines that are told apart for the width. -/
def padLines (look : Look) (pad : Nat → String → String) (width : Nat) (s : String) : String :=
  let room (part : String) : Nat := width + part.length - lineWidth part
  if look.hasLines then
    let lines := Text.splitLines s
    String.intercalate "\n"
      (if look.hasCommands then
        List.zipWith (fun line part => pad (room part) line) lines (widthLines s)
      else lines.map (pad width))
  else pad (room s) s

end Look

/-- A column of texts of some content. -/
def strip (look : Look) (content : Content) (name? : Option String) (texts : List String) :
    Strip :=
  let pad := if content.isAligned then padLeft else padRight
  let texts := if content.isAligned then alignPoints texts else texts.map Text.strip
  let least :=
    match name? with
    | some name => look.width name + 2
    | none => 0
  let padded := texts.map (look.padLines pad ((texts.map look.width).foldl max least))
  let width := (padded.map look.width).foldl max least
  { width
    name? := name?.map fun name => look.drawnLines (look.padLines pad width name)
    blocks := padded.map look.drawnLines }

/-! ## Drawing -/

/-- A horizontal rule. -/
def line (mark : Char) (strips : List Strip) : String :=
  "+" ++ String.join (strips.map fun s =>
    String.ofList (List.replicate (s.width + 2) mark) ++ "+")

/-- The width of a row of columns with its frame. -/
def frameWidth (strips : List Strip) : Nat := strips.foldr (fun s width => s.width + 3 + width) 1

/-- A line of a row, from the piece of each column. -/
def rowLine (pieces : List String) : String :=
  "|" ++ String.join (pieces.map fun piece => " " ++ piece ++ " |")

/-- The lines of a row, from the block and the width of each cell. -/
def rowLines (cells : List (List String × Nat)) : List String :=
  let height := (cells.map fun cell => cell.1.length).foldl max 0
  (List.range height).map fun i =>
    rowLine (cells.map fun cell => cell.1[i]?.getD (padRight cell.2 ""))

/-- The rows of columns, each with one element per column. -/
def rowsOf {α : Type} : List (List α) → List (List α)
  | [] => []
  | [column] => column.map fun a => [a]
  | column :: rest => List.zipWith (· :: ·) column (rowsOf rest)

/-- The lines of the names, with a double rule below, if all columns have a name. -/
def headLines (strips : List Strip) : List String :=
  match strips.mapM fun s => s.name?.map fun block => (block, s.width) with
  | some names => rowLines names ++ [line '=' strips]
  | none => []

/-! ## Marks -/

/-- The text that marks a row as a rule between rows. -/
def markText : String := "\x01"

/-- Whether a cell marks its row as a rule. -/
def isMark : Json → Bool
  | .str s => Text.strip s == markText
  | _ => false

/-- Which rows are marked, each by its first or second cell. -/
def marks (columns : List Column) : List Bool :=
  match columns with
  | first :: second :: _ =>
    List.zipWith (fun a b => isMark a || isMark b) first.cells second.cells
  | [only] => only.cells.map isMark
  | [] => []

/-- The columns without the rows that are marked. -/
def unmarked (columns : List Column) : List Column :=
  let marks := marks columns
  columns.map fun c =>
    { c with cells := ((c.cells.zip marks).filter fun cell => !cell.2).map Prod.fst }

/-- Rows with the marked ones, of which nothing is left, back in their places. -/
def withMarks {α : Type} : List Bool → List α → List (Option α)
  | [], rows => rows.map some
  | true :: marks, rows => none :: withMarks marks rows
  | false :: marks, row :: rows => some row :: withMarks marks rows
  | false :: _, [] => []

/-- What is drawn for a marked row that is the last one. -/
def markLine (look : Look) : String :=
  if look.hasLines then rowLine [markText] else "|" ++ markText ++ "|"

/-- The lines of all rows, with a rule below each. A marked row is a rule, unless it is the last
    one. Above the last row no more lines are drawn than there are rows without a mark, of which
    there has to be one. -/
def bodyLines (look : Look) (marks : List Bool) (strips : List Strip) :
    Except Fault (List String) :=
  let rows := (rowsOf (strips.map fun s => s.blocks.map fun block => (block, s.width))).map rowLines
  let all := withMarks marks rows
  match all.getLast? with
  | some last =>
    if rows.isEmpty then .error (.pastEnd .arr)
    else
      let upper := all.dropLast.take rows.length
      .ok (upper.flatMap (fun row => row.getD [] ++ [line '-' strips])
        ++ last.getD [markLine look] ++ [line '-' strips])
  | none => .ok [line '-' strips]

/-- The grid of columns of equal length (`tabulate`). -/
def grid (columns : List Column) : Except Fault String := do
  let shown := unmarked columns
  let texts := shown.flatMap fun c => c.name?.toList ++ c.cells.map Json.display
  let look : Look :=
    { hasLines := texts.any isMultiline, hasCommands := texts.any Text.hasSequence }
  let strips ← shown.mapM fun c => do
    let content := commonContent c.cells
    return strip look content c.name? (← c.cells.mapM (cellText look.hasCommands content))
  let body ← bodyLines look (marks columns) strips
  return String.intercalate "\n" (line '-' strips :: (headLines strips ++ body))

theorem length_line (mark : Char) (strips : List Strip) :
    (line mark strips).length = frameWidth strips := by
  simp only [line, String.length_append, String.length_join, List.map_map]
  induction strips with
  | nil => rfl
  | cons s rest ih =>
    simp only [List.map_cons, List.sum_cons, frameWidth, List.foldr_cons] at ih ⊢
    rw [← ih]
    simp [show "+".length = 1 by decide]
    omega

theorem length_rowLine {pieces : List String} {strips : List Strip}
    (h : pieces.map String.length = strips.map Strip.width) :
    (rowLine pieces).length = frameWidth strips := by
  simp only [rowLine, String.length_append, String.length_join, List.map_map]
  induction strips generalizing pieces with
  | nil => simp_all [frameWidth, show "|".length = 1 by decide]
  | cons s rest ih =>
    cases pieces with
    | nil => contradiction
    | cons piece pieces =>
      simp only [List.map_cons, List.cons.injEq] at h
      have ih := ih h.2
      simp only [List.map_cons, List.sum_cons, frameWidth, List.foldr_cons] at ih ⊢
      rw [← ih]
      simp [show " ".length = 1 by decide, show " |".length = 2 by decide]
      omega

theorem withMarks_replicate {α : Type} (rows : List α) :
    withMarks (List.replicate rows.length false) rows = rows.map some := by
  induction rows with
  | nil => rfl
  | cons row rest ih => simp [List.replicate_succ, withMarks, ih]

end AlbListener.Table

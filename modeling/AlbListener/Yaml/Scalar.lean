import AlbListener.Text.Hex
import AlbListener.Yaml.Placed

/-!
# Reading scalars

The text of a scalar in each of its styles. A plain scalar ends at a comment, at the colon
behind a name or where the indentation of its block ends; one in quotes ends at its quote; a
block scalar ends with its lines. A single line end within a plain or quoted scalar is a
space, and of several one is dropped.
-/

namespace AlbListener.Yaml

/-- Why a text cannot be divided any further: what stands there begins nothing, or an escape in
    a scalar stands for no character. -/
inductive Obstacle
  | noToken
  | noCharacter (code : Nat)
  deriving DecidableEq, Repr

/-! ## Plain scalars -/

/-- Whether a character has a meaning in a collection between brackets or braces. -/
def isFlowMark (c : Char) : Bool := ",?[]\x7b\x7d".toList.contains c

/-- Whether a word of a plain scalar ends before a character. -/
def endsWord (inFlow : Bool) (p : Placed) (rest : List Placed) : Bool :=
  isSeparator p.char || (inFlow && isFlowMark p.char)
    || (p.char == ':' && (atSeparator rest
      || (inFlow && rest.head?.any fun next => next.char != '?' && isFlowMark next.char)))

/-- The word at the front and what follows it. -/
def word (inFlow : Bool) : List Placed → List Char × List Placed
  | [] => ([], [])
  | p :: rest =>
    if endsWord inFlow p rest then ([], p :: rest)
    else
      let (cs, after) := word inFlow rest
      (p.char :: cs, after)

/-- The further line ends at the front, with spaces between them, what follows, and whether a
    mark between documents does. -/
def plainBreaks : List Placed → List Char × List Placed × Bool
  | [] => ([], [], false)
  | p :: rest =>
    if p.char == ' ' then plainBreaks rest
    else if isBreak p.char then
      if atDocument rest then ([], rest, true)
      else
        let (breaks, after, ended) := plainBreaks rest
        (p.char :: breaks, after, ended)
    else ([], p :: rest, false)

/-- What a line end and those that follow it stand for in a scalar. -/
def foldBreaks (first : Char) (breaks : List Char) : List Char :=
  if first != '\n' then first :: breaks else if breaks.isEmpty then [' '] else breaks

/-- What stands between the words of a plain scalar, what follows, and whether a line ended. -/
def plainGap (cs : List Placed) : List Char × List Placed × Bool :=
  let spaces := cs.takeWhile fun p => p.char == ' '
  match cs.dropWhile fun p => p.char == ' ' with
  | [] => (spaces.map Placed.char, [], false)
  | p :: rest =>
    if isBreak p.char then
      if atDocument rest then ([], rest, true)
      else
        let (breaks, after, ended) := plainBreaks rest
        (if ended then [] else foldBreaks p.char breaks, after, true)
    else (spaces.map Placed.char, p :: rest, false)

/-- A plain scalar whose further lines begin at a column at least, what follows it, and whether
    a line ended behind it; with fuel for its words. -/
def plainScalar (inFlow : Bool) (leastColumn : Nat) :
    Nat → List Placed → List Char × List Placed × Bool
  | 0, cs => ([], cs, false)
  | fuel + 1, cs =>
    let (first, rest) := word inFlow cs
    if first.isEmpty then ([], cs, false)
    else
      let (gap, after, ended) := plainGap rest
      let stops := gap.isEmpty || after.head?.any fun p =>
        p.char == '#' || (!inFlow && p.column < leastColumn)
      if stops then (first, after, ended)
      else
        match plainScalar inFlow leastColumn fuel after with
        | ([], _, _) => (first, after, ended)
        | (more, after, ended) => (first ++ gap ++ more, after, ended)

/-! ## Quoted scalars -/

/-- The line ends and blanks at the front and what follows them; a mark between documents may
    not begin a line. -/
def quotedBreaks (atLineStart : Bool) : List Placed → Except Obstacle (List Char × List Placed)
  | [] => .ok ([], [])
  | p :: rest =>
    if atLineStart && atDocument (p :: rest) then .error .noToken
    else if isSpaceOrTab p.char then quotedBreaks false rest
    else if isBreak p.char then
      (quotedBreaks true rest).map fun (breaks, after) => (p.char :: breaks, after)
    else .ok ([], p :: rest)

/-- The character that an escape of one letter stands for. -/
def escaped? : Char → Option Char
  | '0' => some '\x00'
  | 'a' => some '\x07'
  | 'b' => some '\x08'
  | 't' => some '\t'
  | '\t' => some '\t'
  | 'n' => some '\n'
  | 'v' => some '\x0b'
  | 'f' => some '\x0c'
  | 'r' => some '\r'
  | 'e' => some '\x1b'
  | ' ' => some ' '
  | '"' => some '"'
  | '\\' => some '\\'
  | '/' => some '/'
  | 'N' => some '\x85'
  | '_' => some '\xa0'
  | 'L' => some '\u2028'
  | 'P' => some '\u2029'
  | _ => none

/-- The number of hexadecimal digits behind the letter of an escape. -/
def escapeWidth? : Char → Option Nat
  | 'x' => some 2
  | 'u' => some 4
  | 'U' => some 8
  | _ => none

/-- The character of a code point; a surrogate is no character. -/
def ofCode (n : Nat) : Except Obstacle Char :=
  if (0xD800 ≤ n ∧ n < 0xE000) ∨ 0x110000 ≤ n then .error (.noCharacter n)
  else .ok (Char.ofNat n)

/-- The character that an escape stands for and what follows it. -/
def escapedAt (letter : Char) (rest : List Placed) : Except Obstacle (Char × List Placed) :=
  match escaped? letter, escapeWidth? letter with
  | some c, _ => .ok (c, rest)
  | none, some width =>
    let digits := (rest.take width).map Placed.char
    match Text.hexValueOf? digits with
    | some code =>
      if digits.length < width then .error .noToken
      else (ofCode code).map fun c => (c, rest.drop width)
    | none => .error .noToken
  | none, none => .error .noToken

/-- The rest of a scalar between quotes and what follows it, with fuel for its characters. -/
def quotedScalar (quote : Char) : Nat → List Placed → Except Obstacle (List Char × List Placed)
  | 0, _ => .error .noToken
  | _ + 1, [] => .error .noToken
  | fuel + 1, p :: rest =>
    let more (cs : List Char) (after : List Placed) : Except Obstacle (List Char × List Placed) :=
      (quotedScalar quote fuel after).map fun (text, after) => (cs ++ text, after)
    if p.char == quote then
      match rest with
      | next :: after =>
        if quote == '\'' && next.char == quote then more [quote] after else .ok ([], rest)
      | [] => .ok ([], [])
    else if quote == '"' && p.char == '\\' then
      match rest with
      | [] => .error .noToken
      | next :: after =>
        if isBreak next.char then do
          let (breaks, after) ← quotedBreaks true after
          more breaks after
        else do
          let (c, after) ← escapedAt next.char after
          more [c] after
    else if isBreak p.char then do
      let (breaks, after) ← quotedBreaks true rest
      more (foldBreaks p.char breaks) after
    else if isSpaceOrTab p.char then
      let blanks := (p :: rest).takeWhile fun p => isSpaceOrTab p.char
      let after := rest.dropWhile fun p => isSpaceOrTab p.char
      match after with
      | next :: _ =>
        more (if isBreak next.char then [] else blanks.map Placed.char) after
      | [] => .error .noToken
    else more [p.char] rest

/-! ## Block scalars -/

/-- What becomes of the line ends behind a block scalar. -/
inductive Chomping
  | strip
  | clip
  | keep
  deriving DecidableEq, Repr

/-- How a line end in a block scalar is chomped by a mark. -/
def chomping? : Char → Option Chomping
  | '+' => some .keep
  | '-' => some .strip
  | _ => none

/-- The indentation that a digit asks for. -/
def indentation? (c : Char) : Option Nat :=
  if c.isDigit && c != '0' then some (c.toNat - '0'.toNat) else none

/-- The header of a block scalar behind its mark, and what follows it on the line. -/
def blockHeader : List Placed → Chomping × Option Nat × List Placed
  | [] => (.clip, none, [])
  | p :: rest =>
    match chomping? p.char, indentation? p.char with
    | some chomping, _ =>
      match rest with
      | next :: after =>
        match indentation? next.char with
        | some n => (chomping, some n, after)
        | none => (chomping, none, rest)
      | [] => (chomping, none, [])
    | none, some n =>
      match rest with
      | next :: after =>
        match chomping? next.char with
        | some chomping => (chomping, some n, after)
        | none => (.clip, some n, rest)
      | [] => (.clip, some n, [])
    | none, none => (.clip, none, p :: rest)

/-- The line ends at the front, with spaces up to an indentation before them, and what
    follows. -/
def blockBreaks (indent : Nat) : List Placed → List Char × List Placed
  | [] => ([], [])
  | p :: rest =>
    if p.char == ' ' && p.column < indent then blockBreaks indent rest
    else if isBreak p.char then
      let (breaks, after) := blockBreaks indent rest
      (p.char :: breaks, after)
    else ([], p :: rest)

/-- The column that the spaces at the front reach. -/
def blockColumn : List Placed → Nat
  | [] => 0
  | p :: rest =>
    if p.char == ' ' then max (p.column + 1) (blockColumn rest)
    else if isBreak p.char then blockColumn rest
    else 0

/-- The lines of a block scalar at an indentation behind some line ends: their text, the line
    end behind them, those that follow it, and the rest; with fuel for the lines. -/
def blockLines (folded : Bool) (indent : Nat) :
    Nat → List Char → List Placed → List Char × List Char × List Char × List Placed
  | 0, breaks, cs => ([], [], breaks, cs)
  | fuel + 1, breaks, cs =>
    if !cs.head?.any fun p => p.column == indent then ([], [], breaks, cs)
    else
      let line := (cs.takeWhile fun p => !isBreak p.char).map Placed.char
      match cs.dropWhile fun p => !isBreak p.char with
      | [] => (breaks ++ line, [], [], [])
      | ending :: after =>
        let (next, after) := blockBreaks indent after
        match after with
        | [] => (breaks ++ line, [ending.char], next, [])
        | p :: _ =>
          if p.column == indent then
            let joins := folded && ending.char == '\n' && !line.head?.any isSpaceOrTab
              && !isSpaceOrTab p.char
            let joint :=
              if !joins then [ending.char] else if next.isEmpty then [' '] else []
            let (more, last, trailing, after) := blockLines folded indent fuel next after
            (breaks ++ line ++ joint ++ more, last, trailing, after)
          else (breaks ++ line, [ending.char], next, after)

/-- A block scalar behind its mark in a block whose contents begin at a column at least. -/
def blockScalar (folded : Bool) (leastColumn : Nat) (cs : List Placed) :
    Except Obstacle (List Char × List Placed) :=
  let (chomping, indentation?, rest) := blockHeader cs
  if !atSpaceOrBreak rest then .error .noToken
  else
    let blank := rest.dropWhile fun p => p.char == ' '
    let comment := blank.head?.any fun p => p.char == '#'
    let rest := if comment then blank.dropWhile fun p => !isBreak p.char else blank
    if rest.head?.any fun p => !isBreak p.char then .error .noToken
    else
      let rest := rest.drop 1
      let least := max 1 leastColumn
      let indent :=
        match indentation? with
        | some n => least + n - 1
        | none => max least (blockColumn rest)
      let (breaks, rest) := blockBreaks indent rest
      let (text, last, trailing, rest) := blockLines folded indent (rest.length + 1) breaks rest
      let last := if chomping = .strip then [] else last
      let trailing := if chomping = .keep then trailing else []
      .ok (text ++ last ++ trailing, rest)

end AlbListener.Yaml

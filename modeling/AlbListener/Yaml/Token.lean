import AlbListener.Yaml.Property
import AlbListener.Yaml.Scalar

/-!
# Tokens

A text as a list of scalars and marks. The beginning and end of a block collection are tokens
of their own, found from the columns of what it holds. Whether a scalar or a collection is a
name in a mapping is known only at the colon behind it; until then its place among the tokens
is kept (`Candidate`), on its own line and for 1024 characters at most.

What cannot be divided into tokens ends in the token `broken`, behind the tokens that are
settled before: those in front of every place that may still turn out to be a name.

Results:
* `insertTokens_eq`: an insertion keeps the tokens on both sides.
-/

namespace AlbListener.Yaml

/-- A scalar or mark. -/
inductive Token
  | scalar (isPlain : Bool) (text : String)
  | sequenceStart
  | mappingStart
  | blockEnd
  | flowSequenceStart
  | flowSequenceEnd
  | flowMappingStart
  | flowMappingEnd
  | entry
  | comma
  | name
  | value
  | alias (name : String)
  | anchor (name : String)
  | tag (sort : SortName)
  | directive (content : Directive)
  | documentStart
  | documentEnd
  | broken (obstacle : Obstacle)
  deriving DecidableEq, Repr

/-- What may turn out to be a name: the number of tokens before it, its place, and whether it
    must be one because nothing else may stand there. -/
structure Candidate where
  before : Nat
  place : Placed
  isRequired : Bool

/-- A text that is divided into tokens: what is left of it, its end, the depth of brackets and braces,
    the columns of the open blocks, whether a name may begin, the candidates for names at each
    depth, and the tokens found, the last ones first. -/
structure Scan where
  rest : List Placed
  ending : Placed
  depth : Nat
  blocks : List Nat
  nameAllowed : Bool
  candidates : List (Option Candidate)
  tokens : List Token

namespace Scan

/-- The place behind the last of some characters. -/
def endOf (cs : List Placed) : Placed :=
  match cs.getLast? with
  | some p =>
    if isBreak p.char then ⟨'\x00', p.index + 1, p.line + 1, 0⟩
    else ⟨'\x00', p.index + 1, p.line, p.column + 1⟩
  | none => ⟨'\x00', 0, 0, 0⟩

/-- A text that is not divided yet. -/
def start (cs : List Placed) : Scan :=
  { rest := cs, ending := endOf cs, depth := 0, blocks := [], nameAllowed := true,
    candidates := [none], tokens := [] }

/-- The place that is reached. -/
def place (s : Scan) : Placed := s.rest.head?.getD s.ending

/-- Whether everything stands between brackets or braces. -/
def inFlow (s : Scan) : Bool := s.depth != 0

/-- The least column of what belongs to the innermost block. -/
def leastColumn (s : Scan) : Nat :=
  match s.blocks with
  | column :: _ => column + 1
  | [] => 0

/-- Adds a token. -/
def push (s : Scan) (token : Token) : Scan := { s with tokens := token :: s.tokens }

/-! ## Blocks -/

/-- The open blocks up to a column, and how many are closed. -/
def openBlocks (column : Nat) : List Nat → List Nat × Nat
  | [] => ([], 0)
  | block :: rest =>
    if column < block then
      let (blocks, closed) := openBlocks column rest
      (blocks, closed + 1)
    else (block :: rest, 0)

/-- Closes the blocks that a column does not belong to. -/
def closeTo (s : Scan) (column : Nat) : Scan :=
  if s.inFlow then s
  else
    let (blocks, closed) := openBlocks column s.blocks
    { s with blocks, tokens := List.replicate closed .blockEnd ++ s.tokens }

/-- Closes all blocks. -/
def closeAll (s : Scan) : Scan :=
  if s.inFlow then s
  else { s with blocks := [], tokens := s.blocks.map (fun _ => .blockEnd) ++ s.tokens }

/-- Opens a block at a column, if it lies behind the innermost block. -/
def openBlock (s : Scan) (column : Nat) (token : Token) : Scan :=
  if s.inFlow || column < s.leastColumn then s
  else { s with blocks := column :: s.blocks }.push token

/-! ## Candidates for names -/

/-- Whether a candidate is too far from a place to be a name. -/
def isStale (p : Placed) (c : Candidate) : Bool :=
  c.place.line != p.line || c.place.index + 1024 < p.index

/-- Drops the candidates that the place reached is too far from, unless one had to be a name. -/
def dropStale (s : Scan) : Except Obstacle Scan :=
  let stale := isStale s.place
  if s.candidates.any fun c? => c?.any fun c => stale c && c.isRequired then .error .noToken
  else .ok { s with candidates := s.candidates.map fun c? => c?.filter fun c => !stale c }

/-- Puts another candidate at the depth reached, unless the one there had to be a name. -/
def setCandidate (s : Scan) (candidate : Option Candidate) : Except Obstacle Scan :=
  match s.candidates with
  | current :: outer =>
    if current.any Candidate.isRequired then .error .noToken
    else .ok { s with candidates := candidate :: outer }
  | [] => .ok { s with candidates := [candidate] }

/-- Drops the candidate at the depth reached, unless it had to be a name. -/
def dropCandidate (s : Scan) : Except Obstacle Scan := s.setCandidate none

/-- Keeps a place as a candidate, where a name is allowed. -/
def keepCandidate (s : Scan) (p : Placed) : Except Obstacle Scan :=
  if s.nameAllowed then
    let isRequired := !s.inFlow && s.blocks.head? == some p.column
    s.setCandidate (some ⟨s.tokens.length, p, isRequired⟩)
  else .ok s

/-- Tokens, the last ones first, with others inserted behind the first `before` of them. -/
def insertTokens (before : Nat) (inserted tokens : List Token) : List Token :=
  tokens.take (tokens.length - before) ++ inserted ++ tokens.drop (tokens.length - before)

/-! ## Marks -/

/-- Goes on behind some characters with one more token. -/
def advance (s : Scan) (count : Nat) (token : Token) : Scan :=
  { s with rest := s.rest.drop count }.push token

/-- A mark between documents, or a directive, which ends everything before it. -/
def documentMark (s : Scan) (token : Token) (rest : List Placed) : Except Obstacle Scan := do
  let s ← s.closeAll.dropCandidate
  return { s with nameAllowed := false, rest }.push token

/-- An opening bracket or brace. -/
def flowStart (s : Scan) (p : Placed) (token : Token) : Except Obstacle Scan := do
  let s ← s.keepCandidate p
  return { s with
    depth := s.depth + 1, candidates := none :: s.candidates, nameAllowed := true }.advance 1 token

/-- A closing bracket or brace. -/
def flowEnd (s : Scan) (token : Token) : Except Obstacle Scan := do
  let s ← s.dropCandidate
  return { s with
    depth := s.depth - 1, candidates := s.candidates.drop 1, nameAllowed := false }.advance 1 token

/-- The comma between elements. -/
def comma (s : Scan) : Except Obstacle Scan := do
  let s ← s.dropCandidate
  return { s with nameAllowed := true }.advance 1 .comma

/-- The mark of an element of a block sequence. -/
def entry (s : Scan) (p : Placed) : Except Obstacle Scan := do
  if !s.inFlow && !s.nameAllowed then throw .noToken
  else
    let s ← (s.openBlock p.column .sequenceStart).dropCandidate
    return { s with nameAllowed := true }.advance 1 .entry

/-- The mark in front of a name. -/
def nameMark (s : Scan) (p : Placed) : Except Obstacle Scan := do
  if !s.inFlow && !s.nameAllowed then throw .noToken
  else
    let s ← (s.openBlock p.column .mappingStart).dropCandidate
    return { s with nameAllowed := !s.inFlow }.advance 1 .name

/-- The colon in front of a value. The candidate before it is a name, and begins a mapping if it
    lies behind the innermost block. -/
def valueMark (s : Scan) (p : Placed) : Except Obstacle Scan := do
  match s.candidates.head?.join with
  | some c =>
    let opened := s.openBlock c.place.column .mappingStart
    let inserted := if opened.blocks.length = s.blocks.length then [.name] else [.name, .mappingStart]
    return { s with
      blocks := opened.blocks
      nameAllowed := false
      candidates := none :: s.candidates.drop 1
      tokens := insertTokens c.before inserted s.tokens }.advance 1 .value
  | none =>
    if !s.inFlow && !s.nameAllowed then throw .noToken
    else
      let s := s.openBlock p.column .mappingStart
      return { s with nameAllowed := !s.inFlow }.advance 1 .value

/-! ## Scalars -/

/-- A scalar between quotes. -/
def quoted (s : Scan) (p : Placed) : Except Obstacle Scan := do
  let s ← s.keepCandidate p
  let (text, rest) ← quotedScalar p.char (s.rest.length + 1) (s.rest.drop 1)
  return { s with nameAllowed := false, rest }.push (.scalar false (String.ofList text))

/-- A plain scalar; behind its line a name is allowed again. -/
def plain (s : Scan) (p : Placed) : Except Obstacle Scan := do
  let s ← s.keepCandidate p
  let (text, rest, ended) :=
    plainScalar s.inFlow s.leastColumn (s.rest.length + 1) s.rest
  return { s with nameAllowed := ended, rest }.push (.scalar true (String.ofList text))

/-- A block scalar. -/
def block (s : Scan) (folded : Bool) : Except Obstacle Scan := do
  let s ← s.dropCandidate
  let (text, rest) ← blockScalar folded s.leastColumn (s.rest.drop 1)
  return { s with nameAllowed := true, rest }.push (.scalar false (String.ofList text))

/-- What stands in front of a value or, as an alias, instead of one. -/
def property (s : Scan) (p : Placed) (found? : Option (Token × List Placed)) :
    Except Obstacle Scan := do
  let s ← s.keepCandidate p
  match found? with
  | some (token, rest) => return { s with nameAllowed := false, rest }.push token
  | none => throw .noToken

/-- A directive. -/
def directive (s : Scan) (rest : List Placed) : Except Obstacle Scan :=
  match directive? rest with
  | some (content, rest) => s.documentMark (.directive content) rest
  | none => .error .noToken

/-- Whether a plain scalar may begin with a character. -/
def beginsPlain (inFlow : Bool) (c : Char) (rest : List Placed) : Bool :=
  if c == '-' then !atSeparator rest
  else if c == '?' || c == ':' then !inFlow && !atSeparator rest
  else !isSeparator c && !",[]\x7b\x7d#&*!|>'\"%@`".toList.contains c

/-! ## All tokens -/

/-- The token that begins with a character, of which the rest of the text is not divided yet. -/
def next (s : Scan) (p : Placed) (rest : List Placed) : Except Obstacle Scan :=
  let c := p.char
  if p.column == 0 && c == '%' then s.directive rest
  else if p.column == 0 && atDocument (p :: rest) then
    s.documentMark (if c == '-' then .documentStart else .documentEnd) (rest.drop 2)
  else if c == '[' then s.flowStart p .flowSequenceStart
  else if c == '\x7b' then s.flowStart p .flowMappingStart
  else if c == ']' then s.flowEnd .flowSequenceEnd
  else if c == '\x7d' then s.flowEnd .flowMappingEnd
  else if c == ',' then s.comma
  else if c == '-' && atSeparator rest then s.entry p
  else if c == '?' && (s.inFlow || atSeparator rest) then s.nameMark p
  else if c == ':' && (s.inFlow || atSeparator rest) then s.valueMark p
  else if c == '*' then
    s.property p ((anchor? rest).map fun (name, rest) => (.alias name, rest))
  else if c == '&' then
    s.property p ((anchor? rest).map fun (name, rest) => (.anchor name, rest))
  else if c == '!' then s.property p ((sort? p rest).map fun (sort, rest) => (.tag sort, rest))
  else if (c == '|' || c == '>') && !s.inFlow then s.block (c == '>')
  else if c == '\'' || c == '"' then s.quoted p
  else if beginsPlain s.inFlow c rest then s.plain p
  else .error .noToken

/-- The tokens of a text that goes on in no way; those from the first candidate on are not
    settled yet, unless what is left begins too far from it and it need not be a name. -/
def brokenOff (s : Scan) (obstacle : Obstacle) : List Token :=
  let live (c : Candidate) : Bool := c.isRequired || !isStale s.place c
  let places := s.candidates.filterMap fun c? => (c?.filter live).map Candidate.before
  s.tokens.reverse.take (places.foldl min s.tokens.length) ++ [.broken obstacle]

/-- The next token, or the end of all blocks with the text; the name that the place reached may
    begin is settled first. -/
def step (s : Scan) : Except Obstacle Scan := do
  let s ← s.dropStale
  match s.rest with
  | [] => s.closeAll.dropCandidate
  | p :: rest => (s.closeTo p.column).next p rest

/-- All tokens, with fuel for those that are left. -/
def run : Nat → Scan → List Token
  | 0, s => s.tokens.reverse
  | fuel + 1, s =>
    let (rest, sawBreak) := skipBlanks false false s.rest
    let ahead := { s with rest, nameAllowed := s.nameAllowed || (sawBreak && !s.inFlow) }
    match ahead.step with
    | .error obstacle => s.brokenOff obstacle
    | .ok s => if rest.isEmpty then s.tokens.reverse else run fuel s

theorem insertTokens_eq (before : Nat) (inserted tokens : List Token) :
    ∃ last first, tokens = last ++ first ∧
      insertTokens before inserted tokens = last ++ inserted ++ first :=
  ⟨_, _, (List.take_append_drop (tokens.length - before) tokens).symm, rfl⟩

end Scan

/-- The tokens of characters with their places; each takes a character at least. -/
def tokens (cs : List Placed) : List Token := Scan.run (cs.length + 1) (Scan.start cs)

end AlbListener.Yaml

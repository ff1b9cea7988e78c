import AlbListener.Text.Hex
import AlbListener.Yaml.Placed

/-!
# Anchors, tags and directives

What may stand in front of a value: the name that it is known by, and the sort of value that
it is. A sort is named by its address, or by a handle and the rest of the address; a directive
in front of the document says which address a handle stands for, and which version of the
format the document is written in.

Results:
* `name?_eq_none_iff`: where there is no name.
-/

namespace AlbListener.Yaml

/-! ## Names and addresses -/

/-- Whether a character may stand in a name. -/
def isNameChar (c : Char) : Bool := c.isAlphanum || c == '-' || c == '_'

/-- The name at the front and what follows it. -/
def name? (cs : List Placed) : Option (String × List Placed) :=
  let name := cs.takeWhile fun p => isNameChar p.char
  if name.isEmpty then none
  else some (String.ofList (name.map Placed.char), cs.dropWhile fun p => isNameChar p.char)

/-- Whether a character may stand in an address; the percent sign begins the code of a byte. -/
def isAddressChar (c : Char) : Bool :=
  c.isAlphanum || "-;/?:@&=+$,_.!~*'()[]".toList.contains c

/-- The bytes of the address at the front and what follows it. -/
def addressBytes : List Placed → Option (List UInt8 × List Placed)
  | [] => some ([], [])
  | p :: rest =>
    if p.char == '%' then
      match rest with
      | first :: second :: rest => do
        let code ← Text.hexValueOf? [first.char, second.char]
        let (bytes, after) ← addressBytes rest
        return (UInt8.ofNat code :: bytes, after)
      | _ => none
    else if isAddressChar p.char then do
      let (bytes, after) ← addressBytes rest
      return (UInt8.ofNat p.char.toNat :: bytes, after)
    else some ([], p :: rest)

/-- The address at the front and what follows it. -/
def address? (cs : List Placed) : Option (String × List Placed) := do
  let (bytes, after) ← addressBytes cs
  if bytes.isEmpty then none else return (← String.fromUTF8? ⟨bytes.toArray⟩, after)

/-- The handle at the front, an exclamation mark or a name between two of them, and what follows
    it. -/
def handle? : List Placed → Option (String × List Placed)
  | [] => none
  | p :: rest =>
    if p.char != '!' then none
    else if rest.head?.any fun next => next.char == ' ' then some ("!", rest)
    else
      let name := rest.takeWhile fun p => isNameChar p.char
      match rest.dropWhile fun p => isNameChar p.char with
      | close :: after =>
        if close.char == '!' then
          some ("!" ++ String.ofList (name.map Placed.char) ++ "!", after)
        else none
      | [] => none

/-! ## In front of a value -/

/-- The name of a value behind its mark, and what follows it. -/
def anchor? (cs : List Placed) : Option (String × List Placed) := do
  let (name, after) ← name? cs
  if after.head?.all fun p => isSeparator p.char || "?:,]\x7d%@`".toList.contains p.char then
    some (name, after)
  else none

/-- The sort of a value, by a handle, if there is one, and the rest of the address. -/
structure SortName where
  handle? : Option String
  rest : String
  deriving DecidableEq, Repr

/-- The name of a sort behind the mark of a tag, and what follows it. -/
def sortAt? (mark : Placed) : List Placed → Option (SortName × List Placed)
  | [] => some (⟨none, "!"⟩, [])
  | next :: rest =>
    if next.char == '<' then do
      let (address, after) ← address? rest
      if after.head?.any fun p => p.char == '>' then some (⟨none, address⟩, after.drop 1)
      else none
    else if isSeparator next.char then some (⟨none, "!"⟩, next :: rest)
    else do
      let word := (next :: rest).takeWhile fun p => !isSpaceOrBreak p.char
      let hasHandle := word.any fun p => p.char == '!'
      let (handle, after) ←
        if hasHandle then handle? (mark :: next :: rest) else some ("!", next :: rest)
      let (address, after) ← address? after
      return (⟨some handle, address⟩, after)

/-- The sort behind the mark of a tag up to a space or line end, and what follows it. -/
def sort? (mark : Placed) (cs : List Placed) : Option (SortName × List Placed) := do
  let (sort, after) ← sortAt? mark cs
  if atSpaceOrBreak after then some (sort, after) else none

/-! ## Directives -/

/-- What is said in front of a document. -/
inductive Directive
  | version (major minor : Nat)
  | handle (handle address : String)
  | other
  deriving DecidableEq, Repr

/-- What follows the spaces at the front. -/
def afterSpaces (cs : List Placed) : List Placed := cs.dropWhile fun p => p.char == ' '

/-- The decimal number at the front and what follows it. -/
def natural? (cs : List Placed) : Option (Nat × List Placed) :=
  let digits := cs.takeWhile fun p => p.char.isDigit
  if digits.isEmpty then none
  else some (Nat.ofDigitChars 10 (digits.map Placed.char) 0, cs.drop digits.length)

/-- The version at the front and what follows it. -/
def version? (cs : List Placed) : Option (Directive × List Placed) := do
  let (major, after) ← natural? (afterSpaces cs)
  if after.head?.any fun p => p.char == '.' then
    let (minor, after) ← natural? (after.drop 1)
    if atSpaceOrBreak after then return (.version major minor, after) else none
  else none

/-- The handle at the front with the address that it stands for, and what follows it. -/
def handleAddress? (cs : List Placed) : Option (Directive × List Placed) := do
  let (handle, after) ← handle? (afterSpaces cs)
  if after.head?.any fun p => p.char == ' ' then
    let (address, after) ← address? (afterSpaces after)
    if atSpaceOrBreak after then return (.handle handle address, after) else none
  else none

/-- The directive behind its mark, and what follows its line. -/
def directive? (cs : List Placed) : Option (Directive × List Placed) := do
  let (name, after) ← name? cs
  if !atSpaceOrBreak after then none
  else
    let (directive, after) ←
      if name = "YAML" then version? after
      else if name = "TAG" then handleAddress? after
      else some (.other, after.dropWhile fun p => !isBreak p.char)
    let after := afterSpaces after
    let comment := after.head?.any fun p => p.char == '#'
    let after := if comment then after.dropWhile fun p => !isBreak p.char else after
    if after.head?.all fun p => isBreak p.char then return (directive, after.drop 1) else none

theorem name?_eq_none_iff {cs : List Placed} :
    name? cs = none ↔ ∀ p ∈ cs.head?, isNameChar p.char = false := by
  cases cs with
  | nil => simp [name?]
  | cons p rest => by_cases h : isNameChar p.char = true <;> simp [name?, h]

end AlbListener.Yaml

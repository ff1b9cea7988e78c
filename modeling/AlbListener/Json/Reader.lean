import AlbListener.Binary64.Rounding
import AlbListener.Json.Limits
import AlbListener.Text.Hex

/-!
# Reading JSON

The text of one value, with blanks around it (`json.loads`). `NaN`, `Infinity` and `-Infinity`
are numbers, control characters may not stand in strings, and of members with the same name the
last counts, at the place of the first. What cannot be read is reported with its line, its column
and the number of characters before it.

Reading works on the characters that are left; how many they are when it stops gives the
position. It goes on until it comes to what exceeds its limits: an integer of too many digits, or
an array or object inside too many others. That is no mistake in the text, and is reported without
a place.

An escape may stand for half of a surrogate pair whose other half is missing. Texts have no
characters for these, so the replacement character is read instead; `isUnicode` tells the texts of
which that is not so.

Results:
* `joinUnits_map_toNat`: characters that are not written as escapes stand for themselves.
-/

namespace AlbListener.Json

/-- Why a text is not JSON. -/
inductive Problem
  | byteOrderMark
  | noValue
  | noName
  | noColon
  | noComma
  | unterminated
  | controlCharacter
  | badEscape
  | badUnit
  | extraData
  | tooManyDigits (limit count : Nat)
  | tooDeep (kind : Kind)
  deriving DecidableEq, Repr

/-- Whether a problem is that the text exceeds a limit of its reader. -/
def Problem.isExcess : Problem → Bool
  | .tooManyDigits .. | .tooDeep _ => true
  | _ => false

/-- The wording of a problem. -/
def Problem.message : Problem → String
  | .byteOrderMark => "Unexpected UTF-8 BOM (decode using utf-8-sig)"
  | .noValue => "Expecting value"
  | .noName => "Expecting property name enclosed in double quotes"
  | .noColon => "Expecting ':' delimiter"
  | .noComma => "Expecting ',' delimiter"
  | .unterminated => "Unterminated string starting at"
  | .controlCharacter => "Invalid control character at"
  | .badEscape => "Invalid \\escape"
  | .badUnit => "Invalid \\uXXXX escape"
  | .extraData => "Extra data"
  | .tooManyDigits limit count =>
    "Exceeds the limit (" ++ Text.natText limit
      ++ " digits) for integer string conversion: value has " ++ Text.natText count ++ " digits; use sys.set_int_max_str_digits() to increase the limit"
  | .tooDeep kind =>
    "maximum recursion depth exceeded while decoding a JSON "
      ++ (if kind = .arr then "array" else "object") ++ " from a unicode string"

/-- A problem and the number of characters left where it was met. -/
structure Obstacle where
  problem : Problem
  left : Nat
  deriving DecidableEq, Repr

/-- What has been read and the characters left. -/
abbrev Scanned (α : Type) := α × List Char

/-- The characters after the blanks at the front. -/
def skipBlanks (cs : List Char) : List Char :=
  cs.dropWhile fun c => c == ' ' || c == '\t' || c == '\n' || c == '\r'

/-! ## Strings -/

/-- The character that an escape of one letter stands for. -/
def escaped? : Char → Option Char
  | '"' => some '"'
  | '\\' => some '\\'
  | '/' => some '/'
  | 'b' => some '\x08'
  | 'f' => some '\x0c'
  | 'n' => some '\n'
  | 'r' => some '\r'
  | 't' => some '\t'
  | _ => none

/-- What has been read with one more code in front. -/
def prepend (n : Nat) :
    Except Obstacle (Scanned (List Nat)) → Except Obstacle (Scanned (List Nat))
  | .ok (units, rest) => .ok (n :: units, rest)
  | .error e => .error e

/-- The codes of a string up to its closing quote: a character by its code point, an escape by
    its UTF-16 unit. The string is reported where it was opened if it does not end. -/
def scanUnits (opened : Nat) : List Char → Except Obstacle (Scanned (List Nat))
  | [] => .error ⟨.unterminated, opened⟩
  | '"' :: rest => .ok ([], rest)
  | '\\' :: 'u' :: a :: b :: c :: d :: rest =>
    match Text.hexValueOf? [a, b, c, d] with
    | some n =>
      if rest.isEmpty then .error ⟨.badUnit, rest.length + 5⟩
      else prepend n (scanUnits opened rest)
    | none => .error ⟨.badUnit, rest.length + 5⟩
  | '\\' :: 'u' :: rest => .error ⟨.badUnit, rest.length + 1⟩
  | ['\\'] => .error ⟨.unterminated, opened⟩
  | '\\' :: e :: rest =>
    match escaped? e with
    | some c => prepend c.toNat (scanUnits opened rest)
    | none => .error ⟨.badEscape, rest.length + 2⟩
  | c :: rest =>
    if c.toNat < 0x20 then .error ⟨.controlCharacter, rest.length + 1⟩
    else prepend c.toNat (scanUnits opened rest)

/-- The characters for a list of codes, in which a high and a low surrogate stand for one
    character and a lone surrogate for the replacement character. -/
def joinUnits : List Nat → List Char
  | high :: low :: rest =>
    if 0xD800 ≤ high ∧ high < 0xDC00 ∧ 0xDC00 ≤ low ∧ low < 0xE000 then
      Char.ofNat (0x10000 + (high - 0xD800) * 0x400 + (low - 0xDC00)) :: joinUnits rest
    else single high :: joinUnits (low :: rest)
  | [n] => [single n]
  | [] => []
where
  single (n : Nat) : Char := if 0xD800 ≤ n ∧ n < 0xE000 then '\uFFFD' else Char.ofNat n

/-- A string after its opening quote. -/
def scanString (cs : List Char) : Except Obstacle (Scanned String) := do
  let (units, rest) ← scanUnits (cs.length + 1) cs
  return (String.ofList (joinUnits units), rest)

/-! ## Numbers -/

/-- The digits at the front and what follows them. -/
def spanDigits (cs : List Char) : List Char × List Char :=
  (cs.takeWhile Char.isDigit, cs.dropWhile Char.isDigit)

/-- The digits before the point: a zero alone, or digits that do not begin with a zero. -/
def scanWhole? : List Char → Option (List Char × List Char)
  | '0' :: rest => some (['0'], rest)
  | c :: rest => if c.isDigit then some (spanDigits (c :: rest)) else none
  | [] => none

/-- The digits behind the point, if there are any. -/
def scanFraction : List Char → List Char × List Char
  | '.' :: rest =>
    match spanDigits rest with
    | ([], _) => ([], '.' :: rest)
    | (digits, rest) => (digits, rest)
  | cs => ([], cs)

/-- The exponent, if there is one with digits. -/
def scanExponent (cs : List Char) : Option Int × List Char :=
  match cs with
  | e :: rest =>
    if e = 'e' ∨ e = 'E' then
      let (negative, digits) :=
        match rest with
        | '-' :: rest => (true, rest)
        | '+' :: rest => (false, rest)
        | rest => (false, rest)
      match spanDigits digits with
      | ([], _) => (none, cs)
      | (digits, rest) =>
        let n : Int := Nat.ofDigitChars 10 digits 0
        (some (if negative then -n else n), rest)
    else (none, cs)
  | [] => (none, cs)

/-- A number without its sign. -/
def scanUnsigned? (negative : Bool) (cs : List Char) : Option (Json × List Char) :=
  match scanWhole? cs with
  | none => none
  | some (whole, rest) =>
    let (fraction, rest) := scanFraction rest
    let (exponent, rest) := scanExponent rest
    if fraction.isEmpty && exponent.isNone then
      let n : Int := Nat.ofDigitChars 10 whole 0
      some (.int (if negative then -n else n), rest)
    else
      let digits := Nat.ofDigitChars 10 (whole ++ fraction) 0
      some (.float (Binary64.ofDecimal negative digits (exponent.getD 0 - fraction.length)), rest)

/-- A number that has been read, unless it is an integer of too many digits. -/
def checkDigits (limits : Limits) (left : Nat) (found : Scanned Json) :
    Except Obstacle (Scanned Json) :=
  match found.1 with
  | .int n =>
    match limits.exceededBy? n with
    | some limit => .error ⟨.tooManyDigits limit (Text.digitCount n), left⟩
    | none => .ok found
  | _ => .ok found

/-! ## Values -/

/-- A number or one of the words. -/
def scanScalar? : List Char → Option (Json × List Char)
  | 'n' :: 'u' :: 'l' :: 'l' :: rest => some (.null, rest)
  | 't' :: 'r' :: 'u' :: 'e' :: rest => some (.bool true, rest)
  | 'f' :: 'a' :: 'l' :: 's' :: 'e' :: rest => some (.bool false, rest)
  | 'N' :: 'a' :: 'N' :: rest => some (.float .nan, rest)
  | 'I' :: 'n' :: 'f' :: 'i' :: 'n' :: 'i' :: 't' :: 'y' :: rest =>
    some (.float (.infinite false), rest)
  | '-' :: 'I' :: 'n' :: 'f' :: 'i' :: 'n' :: 'i' :: 't' :: 'y' :: rest =>
    some (.float (.infinite true), rest)
  | '-' :: rest => scanUnsigned? true rest
  | cs => scanUnsigned? false cs

mutual

/-- A value at the front of the text, with fuel for the values inside. -/
def scanValue : Limits → Nat → List Char → Except Obstacle (Scanned Json)
  | _, 0, cs => .error ⟨.noValue, cs.length⟩
  | limits, fuel + 1, cs =>
    match cs with
    | '"' :: rest => do
      let (s, rest) ← scanString rest
      return (.str s, rest)
    | '[' :: rest =>
      match limits.inside? with
      | none => .error ⟨.tooDeep .arr, rest.length + 1⟩
      | some inside =>
        match skipBlanks rest with
        | ']' :: rest => .ok (.arr [], rest)
        | rest => do
          let (elements, rest) ← scanElements inside fuel rest
          return (.arr elements, rest)
    | '\x7b' :: rest =>
      match limits.inside? with
      | none => .error ⟨.tooDeep .obj, rest.length + 1⟩
      | some inside =>
        match skipBlanks rest with
        | '\x7d' :: rest => .ok (.obj [], rest)
        | rest => do
          let (members, rest) ← scanMembers inside fuel rest
          return (.obj (Entries.ofPairs members), rest)
    | cs =>
      match scanScalar? cs with
      | some found => checkDigits limits cs.length found
      | none => .error ⟨.noValue, cs.length⟩

/-- The elements of an array up to its closing bracket. -/
def scanElements : Limits → Nat → List Char → Except Obstacle (Scanned (List Json))
  | _, 0, cs => .error ⟨.noValue, cs.length⟩
  | limits, fuel + 1, cs => do
    let (value, rest) ← scanValue limits fuel cs
    match skipBlanks rest with
    | ']' :: rest => return ([value], rest)
    | ',' :: rest =>
      let (values, rest) ← scanElements limits fuel (skipBlanks rest)
      return (value :: values, rest)
    | rest => .error ⟨.noComma, rest.length⟩

/-- The members of an object up to its closing brace. -/
def scanMembers : Limits → Nat → List Char → Except Obstacle (Scanned (List (String × Json)))
  | _, 0, cs => .error ⟨.noName, cs.length⟩
  | limits, fuel + 1, cs =>
    match cs with
    | '"' :: rest => do
      let (name, rest) ← scanString rest
      match skipBlanks rest with
      | ':' :: rest =>
        let (value, rest) ← scanValue limits fuel (skipBlanks rest)
        match skipBlanks rest with
        | '\x7d' :: rest => return ([(name, value)], rest)
        | ',' :: rest =>
          let (members, rest) ← scanMembers limits fuel (skipBlanks rest)
          return ((name, value) :: members, rest)
        | rest => .error ⟨.noComma, rest.length⟩
      | rest => .error ⟨.noColon, rest.length⟩
    | cs => .error ⟨.noName, cs.length⟩

end

/-- The value that a list of characters is the text of. Each value and each further element or
    member takes a character at least, so twice their number is fuel enough. -/
def scanText (limits : Limits) (cs : List Char) : Except Obstacle Json :=
  match cs with
  | '\uFEFF' :: _ => .error ⟨.byteOrderMark, cs.length⟩
  | _ => do
    let (value, rest) ← scanValue limits (2 * cs.length + 2) (skipBlanks cs)
    match skipBlanks rest with
    | [] => return value
    | rest => .error ⟨.extraData, rest.length⟩

/-- A problem at a place of a text; lines and columns count from one. -/
structure ReadError where
  problem : Problem
  line : Nat
  column : Nat
  position : Nat
  deriving DecidableEq, Repr

/-- The place that has so many characters in front. -/
def ReadError.at (problem : Problem) (cs : List Char) (position : Nat) : ReadError :=
  let before := cs.take position
  { problem
    line := before.count '\n' + 1
    column := (before.reverse.takeWhile (· != '\n')).length + 1
    position }

/-- The wording of a problem with its place, which is not told of a limit that is exceeded. -/
def ReadError.message (e : ReadError) : String :=
  if e.problem.isExcess then e.problem.message
  else e.problem.message ++ ": line " ++ Text.natText e.line ++ " column "
    ++ Text.natText e.column ++ " (char " ++ Text.natText e.position ++ ")"

/-- The value that a text stands for, if it exceeds no limits. -/
def readWithin (limits : Limits) (s : String) : Except ReadError Json :=
  let cs := s.toList
  match scanText limits cs with
  | .ok value => .ok value
  | .error e => .error (.at e.problem cs (cs.length - e.left))

/-- The value that a text stands for, of any size. -/
def read (s : String) : Except ReadError Json := readWithin .unlimited s

/-! ## Surrogates -/

/-- The codes of the characters and of the escaped units in the text of a value, in which a letter
    that is escaped stands for itself. -/
def codes : List Char → List Nat
  | '\\' :: 'u' :: a :: b :: c :: d :: rest =>
    match Text.hexValueOf? [a, b, c, d] with
    | some n => n :: codes rest
    | none => codes (a :: b :: c :: d :: rest)
  | '\\' :: e :: rest => e.toNat :: codes rest
  | c :: rest => c.toNat :: codes rest
  | [] => []

/-- Whether every surrogate among some codes is one half of a pair. -/
def arePaired : List Nat → Bool
  | high :: low :: rest =>
    if 0xD800 ≤ high ∧ high < 0xDC00 ∧ 0xDC00 ≤ low ∧ low < 0xE000 then arePaired rest
    else !(0xD800 ≤ high && high < 0xE000) && arePaired (low :: rest)
  | [n] => !(0xD800 ≤ n && n < 0xE000)
  | [] => true

/-- Whether the strings in the text of a value are texts themselves. -/
def isUnicode (s : String) : Bool := arePaired (codes s.toList)

theorem joinUnits_map_toNat (cs : List Char) : joinUnits (cs.map Char.toNat) = cs := by
  have valid (c : Char) : c.toNat < 0xD800 ∨ 0xE000 ≤ c.toNat := by
    rcases c.valid with h | h
    · exact .inl h
    · exact .inr (by have := h.1; simp only [Char.toNat]; omega)
  have single (c : Char) : joinUnits.single c.toNat = c := by
    rw [joinUnits.single, if_neg (by have := valid c; omega), Char.ofNat_toNat]
  induction cs with
  | nil => rfl
  | cons c rest ih =>
    cases rest with
    | nil => simp [joinUnits, single]
    | cons d rest =>
      have hc := valid c
      simp only [List.map_cons] at ih ⊢
      rw [joinUnits, if_neg (by omega), ih, single]

end AlbListener.Json

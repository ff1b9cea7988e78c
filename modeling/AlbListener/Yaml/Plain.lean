import AlbListener.Text.Hex
import AlbListener.Yaml.Time

/-!
# Plain scalars

What sort of value a YAML scalar without quotes stands for, by the rules of YAML 1.1: besides
decimal numbers and `null` there are binary, octal, hexadecimal and sexagesimal numbers,
underscores between digits, times, and truth values such as `yes` and `off`. Every other plain
scalar is a text.

Results:
* `ofUri_uri`: a sort is found by its name.
-/

namespace AlbListener.Yaml

/-- The sorts of values. `merge` and `defaultValue` have a meaning as names in a mapping, and
    `unknown` is every sort that has no meaning here. -/
inductive Tag
  | null
  | truth
  | integer
  | number
  | time
  | bytes
  | text
  | merge
  | defaultValue
  | sequence
  | mapping
  | set
  | orderedMapping
  | pairs
  | unknown
  deriving DecidableEq, Repr

namespace Tag

/-- What the names of all sorts begin with. -/
def uriPrefix : String := "tag:yaml.org,2002:"

/-- The short names of the sorts. -/
def names : List (String × Tag) := [
  ("null", .null), ("bool", .truth), ("int", .integer), ("float", .number),
  ("timestamp", .time), ("binary", .bytes), ("str", .text), ("merge", .merge),
  ("value", .defaultValue), ("seq", .sequence), ("map", .mapping), ("set", .set),
  ("omap", .orderedMapping), ("pairs", .pairs)]

/-- The sort of a name. -/
def ofUri (uri : String) : Tag :=
  ((names.find? fun entry => uriPrefix ++ entry.1 == uri).map Prod.snd).getD .unknown

/-- Whether the values of a sort are made of others, which are read after them. -/
def isCollection : Tag → Bool
  | .sequence | .mapping | .set | .orderedMapping | .pairs => true
  | _ => false

theorem ofUri_uri : ∀ entry ∈ names, ofUri (uriPrefix ++ entry.1) = entry.2 := by decide

end Tag

/-! ## Words -/

/-- The words for null. -/
def nullWords : List String := ["", "~", "null", "Null", "NULL"]

/-- The words for true. -/
def trueWords : List String :=
  ["yes", "Yes", "YES", "true", "True", "TRUE", "on", "On", "ON"]

/-- The words for false. -/
def falseWords : List String :=
  ["no", "No", "NO", "false", "False", "FALSE", "off", "Off", "OFF"]

/-- The words for infinity, without a sign. -/
def infinityWords : List String := [".inf", ".Inf", ".INF"]

/-- The words for NaN. -/
def nanWords : List String := [".nan", ".NaN", ".NAN"]

/-! ## Numbers -/

/-- Whether a character may stand behind the first digit of a number. -/
def isDigitOrGap (c : Char) : Bool := c.isDigit || c == '_'

/-- Whether a character is a digit or gap of a binary number. -/
def isBinary (c : Char) : Bool := c == '0' || c == '1' || c == '_'

/-- Whether a character is a digit or gap of an octal number. -/
def isOctal (c : Char) : Bool := ('0' ≤ c && c ≤ '7') || c == '_'

/-- Whether a character is a digit or gap of a hexadecimal number. -/
def isHex (c : Char) : Bool := (Text.hexValue? c).isSome || c == '_'

/-- The characters behind a sign, if there is one. -/
def dropSign : List Char → List Char
  | '-' :: rest => rest
  | '+' :: rest => rest
  | cs => cs

/-- Whether a list of characters is a place below sixty. -/
def isSixtieth : List Char → Bool
  | [c] => c.isDigit
  | [c, d] => '0' ≤ c && c ≤ '5' && d.isDigit
  | _ => false

/-- Whether places in a sexagesimal number follow its first one. -/
def areSixtieths (places : List (List Char)) : Bool :=
  !places.isEmpty && places.all isSixtieth

/-- Whether an unsigned integer is written in base sixty. -/
def isSexagesimal (cs : List Char) : Bool :=
  match cs.splitOn ':' with
  | first :: places => first.all isDigitOrGap && areSixtieths places
  | [] => false

/-- Whether a list of characters is an integer without a sign. -/
def isUnsignedInteger : List Char → Bool
  | '0' :: 'b' :: rest => !rest.isEmpty && rest.all isBinary
  | '0' :: 'x' :: rest => !rest.isEmpty && rest.all isHex
  | '0' :: rest => rest.all isOctal
  | c :: rest => c.isDigit && (rest.all isDigitOrGap || isSexagesimal (c :: rest))
  | [] => false

/-- Whether a list of characters is nothing or an exponent with a sign. -/
def isExponent : List Char → Bool
  | [] => true
  | e :: sign :: digits =>
    (e == 'e' || e == 'E') && (sign == '-' || sign == '+') && !digits.isEmpty
      && digits.all Char.isDigit
  | _ => false

/-- Whether a list of characters may stand behind a point. -/
def isFraction (cs : List Char) : Bool := isExponent (cs.dropWhile isDigitOrGap)

/-- Whether a list of characters is a number with a point, in base ten or sixty. -/
def isPointed (cs : List Char) : Bool :=
  let whole := cs.takeWhile (· != '.')
  match whole, cs.dropWhile (· != '.') with
  | c :: digits, '.' :: rest =>
    c.isDigit && ((digits.all isDigitOrGap && isFraction rest)
      || (isSexagesimal whole && rest.all isDigitOrGap))
  | _, _ => false

/-- Whether a list of characters is a number that is not an integer. -/
def isNumber (cs : List Char) : Bool :=
  isPointed (dropSign cs)
    || infinityWords.contains (String.ofList (dropSign cs))
    || nanWords.contains (String.ofList cs)
    || match cs with
      | '.' :: c :: rest => c.isDigit && isFraction rest
      | _ => false

/-! ## Sorts -/

/-- The sort of a plain scalar. -/
def tag (s : String) : Tag :=
  let cs := s.toList
  if nullWords.contains s then .null
  else if trueWords.contains s || falseWords.contains s then .truth
  else if isNumber cs then .number
  else if isUnsignedInteger (dropSign cs) then .integer
  else if isTime cs then .time
  else if s = "<<" then .merge
  else if s = "=" then .defaultValue
  else .text

end AlbListener.Yaml

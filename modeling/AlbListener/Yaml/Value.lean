import AlbListener.Binary64.Text
import AlbListener.Calendar.Moment
import AlbListener.Json.Basic
import AlbListener.Json.Display
import AlbListener.Text.Bytes

/-!
# YAML values

A YAML document holds more than a JSON value: dates, moments, bytes, sets and pairs, and the
names in a mapping may be any values that have no parts. Two names are the same if they are
equal; numbers and truth values are compared by what they amount to.

Results:
* `same_refl`: a value that may be a name is the same as itself.
* `names_put`: a name that is there already keeps its place and its spelling.
* `toJson_text`: a text is the same as JSON.
-/

namespace AlbListener.Yaml

/-- A YAML value. -/
inductive Value
  | null
  | truth (b : Bool)
  | integer (n : Int)
  | number (x : Binary64)
  | text (s : String)
  | bytes (data : List UInt8)
  | date (day : Calendar.Date)
  | moment (m : Calendar.Moment)
  | pair (first second : Value)
  | sequence (elements : List Value)
  | set (elements : List Value)
  | mapping (members : List (Value × Value))
  deriving Inhabited

namespace Value

/-! ## Literals -/

mutual

/-- A value as a literal. -/
def literal : Value → String
  | .null => "None"
  | .truth b => if b then "True" else "False"
  | .integer n => Text.intText n
  | .number x => x.text
  | .text s => Text.quoted s
  | .bytes data => Text.quotedBytes data
  | .date day => day.literal
  | .moment m => m.literal
  | .pair first second => "(" ++ first.literal ++ ", " ++ second.literal ++ ")"
  | .sequence elements => "[" ++ String.intercalate ", " (literals elements) ++ "]"
  | .set [] => "set()"
  | .set (element :: rest) =>
    "\x7b" ++ String.intercalate ", " (element.literal :: literals rest) ++ "\x7d"
  | .mapping members => "\x7b" ++ String.intercalate ", " (memberLiterals members) ++ "\x7d"

/-- The literals of a list of values. -/
def literals : List Value → List String
  | [] => []
  | value :: rest => value.literal :: literals rest

/-- The literals of members with their names. -/
def memberLiterals : List (Value × Value) → List String
  | [] => []
  | (name, value) :: rest => (name.literal ++ ": " ++ value.literal) :: memberLiterals rest

end

/-- A value as it stands in a message. -/
def display : Value → String
  | .text s => s
  | .date day => day.text
  | .moment m => m.text
  | value => value.literal

/-! ## Names -/

/-- The number that a value amounts to. -/
def number? : Value → Option Number
  | .truth b => some (.ofInt (if b then 1 else 0))
  | .integer n => some (.ofInt n)
  | .number x => some x.number
  | _ => none

/-- Whether a value has no parts, so that it may be a name. -/
def isSimple : Value → Bool
  | .pair .. | .sequence _ | .set _ | .mapping _ => false
  | _ => true

/-- Whether two values without parts are the same. -/
def same : Value → Value → Bool
  | .null, .null => true
  | .text a, .text b => a == b
  | .bytes a, .bytes b => a == b
  | .date a, .date b => a == b
  | .moment a, .moment b => a.same b
  | a, b =>
    match a.number?, b.number? with
    | some x, some y => x == y
    | _, _ => false

/-- The members with one stored under a name; a name that is the same keeps its place and its
    spelling. -/
def put (name value : Value) : List (Value × Value) → List (Value × Value)
  | [] => [(name, value)]
  | (other, old) :: rest =>
    if other.same name then (other, value) :: rest else (other, old) :: put name value rest

/-- The members for a list of pairs in which a name may come again. -/
def ofPairs (pairs : List (Value × Value)) : List (Value × Value) :=
  pairs.foldl (fun members member => put member.1 member.2 members) []

/-! ## As JSON -/

mutual

/-- A value as JSON, with the members whose names are texts. What is no JSON value stands as a
    text, and sets and pairs stand as arrays. -/
def toJson : Value → Json
  | .null => .null
  | .truth b => .bool b
  | .integer n => .int n
  | .number x => .float x
  | .text s => .str s
  | .bytes data => .str (Text.quotedBytes data)
  | .date day => .str day.text
  | .moment m => .str m.text
  | .pair first second => .arr [first.toJson, second.toJson]
  | .sequence elements => .arr (toJsonAll elements)
  | .set elements => .arr (toJsonAll elements)
  | .mapping members => .obj (toJsonMembers members)

/-- A list of values as JSON. -/
def toJsonAll : List Value → List Json
  | [] => []
  | value :: rest => value.toJson :: toJsonAll rest

/-- The members whose names are texts, with values as JSON. -/
def toJsonMembers : List (Value × Value) → List (String × Json)
  | [] => []
  | (.text name, value) :: rest => (name, value.toJson) :: toJsonMembers rest
  | _ :: rest => toJsonMembers rest

end

theorem same_refl {a : Value} (h : a.isSimple = true) : a.same a = true := by
  cases a <;> simp_all [same, number?, isSimple, Calendar.Moment.same_refl]

theorem names_put (name value : Value) (members : List (Value × Value)) :
    (put name value members).map Prod.fst =
      if members.any fun member => member.1.same name then members.map Prod.fst
      else members.map Prod.fst ++ [name] := by
  induction members with
  | nil => rfl
  | cons member rest ih =>
    cases h : member.1.same name with
    | true => simp [put, h]
    | false =>
      simp only [put, h, Bool.false_eq_true, if_false, List.map_cons, ih, List.any_cons,
        Bool.false_or]
      split <;> rfl

theorem toJson_text (s : String) : (Value.text s).toJson = .str s := by simp [toJson]

end Value

end AlbListener.Yaml

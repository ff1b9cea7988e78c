import AlbListener.Binary64.Basic
import AlbListener.Entries
import AlbListener.Sorting

/-!
# JSON values

The documents that are read and written here: requests, action documents, listener
descriptions and the parameters of provider calls. A whole number without point and exponent
is an integer of any size and every other number a double, so `80` and `80.0` are different
values (of equal size).

Results:
* `names_sortMembers`: sorting members keeps their names.
-/

namespace AlbListener

/-- A JSON value; the members of an object have distinct names. -/
inductive Json
  | null
  | bool (b : Bool)
  | int (n : Int)
  | float (x : Binary64)
  | str (s : String)
  | arr (elements : List Json)
  | obj (members : List (String × Json))
  deriving Inhabited, Repr

namespace Json

/-- What sort of value a JSON value is. -/
inductive Kind
  | null | bool | int | float | str | arr | obj
  deriving DecidableEq, Repr

/-- The sort of a value. -/
def kind : Json → Kind
  | .null => .null
  | .bool _ => .bool
  | .int _ => .int
  | .float _ => .float
  | .str _ => .str
  | .arr _ => .arr
  | .obj _ => .obj

/-- The names of the sorts of values in messages. -/
def Kind.name : Kind → String
  | .null => "NoneType"
  | .bool => "bool"
  | .int => "int"
  | .float => "float"
  | .str => "str"
  | .arr => "list"
  | .obj => "dict"

/-- Whether nothing is given. -/
def isNull : Json → Bool
  | .null => true
  | _ => false

/-- Whether a value counts as given: null, false, zero and everything empty do not. -/
def isTruthy : Json → Bool
  | .null => false
  | .bool b => b
  | .int n => n != 0
  | .float x => !x.isZero
  | .str s => s != ""
  | .arr elements => !elements.isEmpty
  | .obj members => !members.isEmpty

/-- The value, or another if it does not count as given. -/
def orElse (a b : Json) : Json := if a.isTruthy then a else b

/-- An optional text. -/
def ofText? : Option String → Json
  | some s => .str s
  | none => .null

/-- Members in the order of their names. -/
def sortMembers (members : List (String × Json)) : List (String × Json) :=
  sortBy (fun a b => textLe a.1 b.1) members

mutual

/-- The value with the members of every object in the order of their names. -/
def sorted : Json → Json
  | .arr elements => .arr (sortedAll elements)
  | .obj members => .obj (sortMembers (sortedMembers members))
  | value => value

/-- Every value of a list with sorted members. -/
def sortedAll : List Json → List Json
  | [] => []
  | value :: rest => value.sorted :: sortedAll rest

/-- Every member with a value that has sorted members. -/
def sortedMembers : List (String × Json) → List (String × Json)
  | [] => []
  | (name, value) :: rest => (name, value.sorted) :: sortedMembers rest

end

theorem names_sortMembers (members : List (String × Json)) :
    ((sortMembers members).map Prod.fst).Perm (members.map Prod.fst) :=
  (sortBy_perm _ members).map _

end Json

end AlbListener

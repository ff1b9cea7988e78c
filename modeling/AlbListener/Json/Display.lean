import AlbListener.Binary64.Text
import AlbListener.Json.Basic
import AlbListener.Text.Numeral
import AlbListener.Text.Quoted

/-!
# Values in messages

In a message a text stands for itself and every other value for its literal, in which texts
are quoted.

Results:
* `display_str`: a text is displayed as it is.
-/

namespace AlbListener

namespace Json

mutual

/-- A value as a literal (`repr`). -/
def literal : Json → String
  | .null => "None"
  | .bool b => if b then "True" else "False"
  | .int n => Text.intText n
  | .float x => x.text
  | .str s => Text.quoted s
  | .arr elements => "[" ++ String.intercalate ", " (literals elements) ++ "]"
  | .obj members => "\x7b" ++ String.intercalate ", " (memberLiterals members) ++ "\x7d"

/-- The literals of a list of values. -/
def literals : List Json → List String
  | [] => []
  | value :: rest => value.literal :: literals rest

/-- The literals of members with their names. -/
def memberLiterals : List (String × Json) → List String
  | [] => []
  | (name, value) :: rest =>
    (Text.quoted name ++ ": " ++ value.literal) :: memberLiterals rest

end

/-- A value as it stands in a message (`str`). -/
def display : Json → String
  | .str s => s
  | value => value.literal

@[simp] theorem display_str (s : String) : display (.str s) = s := rfl

end Json

end AlbListener

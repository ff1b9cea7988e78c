import AlbListener.Entries
import AlbListener.Json.Display

/-!
# Documents

A request may be written in more than one format. Whatever the format, a check sees a value
by its `Shape`, and a message shows the value as a literal. A request that passes its
checks is taken apart as JSON.

Results:
* `shape_obj`, `shape_arr`, `shape_str`: how JSON is seen.
-/

namespace AlbListener

/-- What a check sees of a value: the members of an object that have a text for a name, and all of
    its members with the steps of a path that lead to them; the elements of an array; a text; a
    number, and whether it counts as an integer; or none of these. -/
inductive Shape (α : Type)
  | object (named : Entries α) (members : List (List String × α))
  | array (elements : List α)
  | text (s : String)
  | number (x : Number) (isInteger : Bool)
  | other

/-- A format of documents. -/
class Document (α : Type) where
  /-- What a check sees of a value. -/
  shape : α → Shape α
  /-- The value in a message. -/
  literal : α → String
  /-- The value as JSON. -/
  toJson : α → Json

namespace Json

/-- What a check sees of a JSON value. -/
def shape : Json → Shape Json
  | .obj members => .object members (members.map fun member => ([member.1], member.2))
  | .arr elements => .array elements
  | .str s => .text s
  | .int n => .number (.ofInt n) true
  | .float x => .number x.number x.isIntegral
  | .null | .bool _ => .other

end Json

instance : Document Json where
  shape := Json.shape
  literal := Json.literal
  toJson value := value

namespace Document

@[simp] theorem shape_obj (members : List (String × Json)) :
    shape (Json.obj members) =
      .object members (members.map fun member => ([member.1], member.2)) := rfl

@[simp] theorem shape_arr (elements : List Json) : shape (Json.arr elements) = .array elements := rfl

@[simp] theorem shape_str (s : String) : shape (Json.str s) = .text s := rfl

@[simp] theorem toJson_json (value : Json) : toJson value = value := rfl

end Document

end AlbListener

import AlbListener.Document
import AlbListener.Yaml.Value

/-!
# YAML documents

How a check sees a YAML value. A member whose name is null lies at the place of its mapping:
such a name is no step of a path.
-/

namespace AlbListener.Yaml.Value

/-- The members of a mapping whose names are texts. -/
def textMembers (members : List (Value × Value)) : Entries Value :=
  members.filterMap fun member =>
    match member.1 with
    | .text name => some (name, member.2)
    | _ => none

/-- The steps of a path that lead to the member with a name. -/
def steps : Value → List String
  | .null => []
  | name => [name.display]

/-- What a check sees of a YAML value. -/
def shape : Value → Shape Value
  | .mapping members =>
    .object (textMembers members) (members.map fun member => (member.1.steps, member.2))
  | .sequence elements => .array elements
  | .text s => .text s
  | .integer n => .number (.ofInt n) true
  | .number x => .number x.number x.isIntegral
  | _ => .other

instance : Document Value where
  shape := shape
  literal := literal
  toJson := toJson

end AlbListener.Yaml.Value

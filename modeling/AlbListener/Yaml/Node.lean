import AlbListener.Yaml.Plain

/-!
# Nodes

A document as a tree: scalars with their texts, sequences and mappings, each with the sort of
value that it stands for. A member of a mapping with the name `<<` stands for the members of
another mapping, or of a list of mappings, which come in front of its own so that these count
more; of a list the first mapping counts most.

Results:
* `merge_of_forall`: without such a member the members stay as they are.
-/

namespace AlbListener.Yaml

/-- A node of a document. -/
inductive Node
  | scalar (tag : Tag) (text : String)
  | sequence (tag : Tag) (elements : List Node)
  | mapping (tag : Tag) (members : List (Node × Node))

/-- The members of a mapping. -/
abbrev Members := List (Node × Node)

namespace Node

/-- The sort of value that a node stands for. -/
def tag : Node → Tag
  | .scalar tag _ => tag
  | .sequence tag _ => tag
  | .mapping tag _ => tag

/-- A node that is not written. -/
def empty : Node := .scalar .null ""

/-- The node with another sort. -/
def withTag (tag : Tag) : Node → Node
  | .scalar _ text => .scalar tag text
  | .sequence _ elements => .sequence tag elements
  | .mapping _ members => .mapping tag members

/-- Whether a member stands for the members of others. -/
def isMerge (member : Node × Node) : Bool := member.1.tag == .merge

/-- A member whose name is the mark of a default value, with that mark as a text. -/
def withPlainName (member : Node × Node) : Node × Node :=
  if member.1.tag == .defaultValue then (member.1.withTag .text, member.2) else member

/-- The members of a mapping, if a node is one. -/
def members? : Node → Option Members
  | .mapping _ members => some members
  | _ => none

/-- The members that the nodes under the name `<<` stand for, if these are mappings or lists of
    mappings; `merge` gives the members of each. -/
def mergedMembers (merge : Members → Option Members) : Node → Option Members
  | .scalar .. => none
  | .sequence _ elements => do
    let parts ← elements.mapM fun element => element.members?.bind merge
    return parts.reverse.flatten
  | .mapping _ members => merge members

/-- The members of a mapping behind those that its members with the name `<<` stand for, with
    fuel for mappings inside each other. -/
def merge : Nat → Members → Option Members
  | 0, _ => none
  | fuel + 1, members => do
    let merged ← (members.filter isMerge).mapM fun member =>
      mergedMembers (merge fuel) member.2
    return merged.flatten ++ (members.filter fun member => !isMerge member).map withPlainName

/-- The text of a scalar, or of the default value of a mapping, with fuel for mappings inside
    each other. -/
def text? : Nat → Node → Option String
  | _, .scalar _ text => some text
  | fuel + 1, .mapping _ members =>
    (members.find? fun member => member.1.tag == .defaultValue).bind fun member =>
      text? fuel member.2
  | _, _ => none

theorem merge_of_forall {members : Members} (fuel : Nat)
    (h : ∀ member ∈ members, member.1.tag ≠ .merge ∧ member.1.tag ≠ .defaultValue) :
    merge (fuel + 1) members = some members := by
  have hm : members.filter isMerge = [] := by
    simp only [List.filter_eq_nil_iff, isMerge, beq_iff_eq]
    exact fun member hm => (h member hm).1
  have hk : (members.filter fun member => !isMerge member) = members := by
    simp only [List.filter_eq_self, isMerge, Bool.not_eq_true', beq_eq_false_iff_ne]
    exact fun member hm => (h member hm).1
  have hp : members.map withPlainName = members := by
    refine (List.map_congr_left fun member hm => ?_).trans (List.map_id _)
    simp [withPlainName, (h member hm).2]
  simp [merge, hm, hk, hp]

end Node

end AlbListener.Yaml

import AlbListener.Fault
import AlbListener.Json.Equality
import AlbListener.Text.Numeral

/-!
# Taking documents apart

Each step takes a value of any sort and fails with the fault that names why it cannot be
taken. An array and a text are sequences (of elements and of characters), and an object is
the sequence of its names.

Results:
* `get_obj`, `member_obj`: on an object, a step that looks up a member cannot mismatch.
* `toInteger_int`: an integer is itself.
-/

namespace AlbListener.Json

/-- The member of an object, if it has it. -/
def get (value : Json) (name : String) : Except Fault (Option Json) :=
  match value with
  | .obj members => .ok (Entries.get? members name)
  | other => .error (.noAccess other.kind "get")

/-- The member of an object, or another value if it is missing. -/
def getD (value : Json) (name : String) (default : Json) : Except Fault Json := do
  return (← value.get name).getD default

/-- The member that an object must have. -/
def member (value : Json) (name : String) : Except Fault Json :=
  match value with
  | .obj members =>
    match Entries.get? members name with
    | some found => .ok found
    | none => .error (.noMember name)
  | .arr _ => .error (.mismatch (.subscriptByName .arr))
  | .str _ => .error (.mismatch (.subscriptByName .str))
  | other => .error (.mismatch (.subscript other.kind))

/-- Whether one list of characters occurs in another. -/
def occursIn (part : List Char) : List Char → Bool
  | [] => part.isEmpty
  | c :: rest => part.isPrefixOf (c :: rest) || occursIn part rest

/-- Whether a name occurs: as a member, as an element or within a text. -/
def mentions (value : Json) (name : String) : Except Fault Bool :=
  match value with
  | .obj members => .ok (Entries.has members name)
  | .arr elements => .ok (elements.any fun element => element.same (.str name))
  | .str s => .ok (occursIn name.toList s.toList)
  | other => .error (.mismatch (.search other.kind))

/-- The values in a sequence. -/
def elements (value : Json) : Except Fault (List Json) :=
  match value with
  | .arr elements => .ok elements
  | .str s => .ok (s.toList.map fun c => .str (String.ofList [c]))
  | .obj members => .ok (members.map fun member => .str member.1)
  | other => .error (.mismatch (.iterate other.kind))

/-- The number of values in a sequence. -/
def size (value : Json) : Except Fault Nat :=
  match value with
  | .arr elements => .ok elements.length
  | .str s => .ok s.toList.length
  | .obj members => .ok members.length
  | other => .error (.mismatch (.measure other.kind))

/-- The first value of a sequence; an object has none. -/
def first (value : Json) : Except Fault Json :=
  match value with
  | .arr (element :: _) => .ok element
  | .arr [] => .error (.pastEnd .arr)
  | .str s =>
    match s.toList with
    | c :: _ => .ok (.str (String.ofList [c]))
    | [] => .error (.pastEnd .str)
  | .obj _ => .error .noFirstMember
  | other => .error (.mismatch (.subscript other.kind))

/-- The integer that a number or numeral stands for; a double is cut toward zero. -/
def toInteger (value : Json) : Except Fault Int :=
  match value with
  | .int n => .ok n
  | .bool b => .ok (if b then 1 else 0)
  | .float (.infinite _) => .error .infinite
  | .float x =>
    match x.toInt? with
    | some n => .ok n
    | none => .error (.invalid .notANumber)
  | .str s =>
    match Text.readInt? s with
    | some n => .ok n
    | none => .error (.invalid (.ofNumeral 10 s))
  | other => .error (.mismatch (.toInteger other.kind))

/-- The name and value that a sequence of two stands for; `index` tells which pair it is. -/
def pair (index : Nat) (value : Json) : Except Fault (Json × Json) :=
  match value.elements with
  | .ok [name, value] => .ok (name, value)
  | .ok values => .error (.invalid (.pairLength index values.length))
  | .error _ => .error (.mismatch (.pair index))

/-- The pairs that a list of values stands for, numbered from `index`. -/
def pairs (index : Nat) : List Json → Except Fault (List (Json × Json))
  | [] => .ok []
  | value :: rest => do
    let first ← pair index value
    if first.1.isCompound then .error (.mismatch (.hash first.1.kind)) else
      return first :: (← pairs (index + 1) rest)

/-- Pairs whose names are texts. A name of another sort cannot be put in order with them. -/
def namedPairs : List (Json × Json) → Except Fault (List (String × Json))
  | [] => .ok []
  | (.str name, value) :: rest => do return (name, value) :: (← namedPairs rest)
  | (other, _) :: _ => .error (.mismatch (.compare "<" other.kind .str))

/-- The members that an object, or a sequence of pairs, stands for. -/
def toMembers (value : Json) : Except Fault (List (String × Json)) :=
  match value with
  | .obj members => .ok members
  | other => do
    let pairs ← pairs 0 (← other.elements)
    return Entries.ofPairs (← namedPairs pairs)

/-- The order of two values, if they can be put in order: numbers by size, texts by code
    points, arrays by the first elements that differ. -/
def less? : Json → Json → Except Fault Bool
  | .str a, .str b => .ok (decide (a < b))
  | .arr as, .arr bs => lessAll as bs
  | a, b =>
    match a.number?, b.number? with
    | some x, some y => .ok (x.lt y)
    | _, _ => .error (.mismatch (.compare "<" a.kind b.kind))
where
  lessAll : List Json → List Json → Except Fault Bool
    | [], [] => .ok false
    | [], _ :: _ => .ok true
    | _ :: _, [] => .ok false
    | a :: as, b :: bs => if a.same b then lessAll as bs else less? a b

theorem get_obj (members : List (String × Json)) (name : String) :
    (Json.obj members).get name = .ok (Entries.get? members name) := rfl

theorem member_obj {members : List (String × Json)} {name : String} {value : Json}
    (h : Entries.get? members name = some value) :
    (Json.obj members).member name = .ok value := by simp [member, h]

@[simp] theorem toInteger_int (n : Int) : (Json.int n).toInteger = .ok n := rfl

end AlbListener.Json

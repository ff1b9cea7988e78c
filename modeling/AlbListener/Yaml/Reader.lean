import AlbListener.Yaml.NodeReader
import AlbListener.Yaml.Number
import AlbListener.Yaml.Value

/-!
# Reading YAML

The value of a text that holds one document, or none, which is null. Of members with the same
name the last counts, at the place of the first. A document that does not stand for a value
is refused for the scalar or collection at fault that lies in the fewest collections, the
first of those. Values are finite trees: a node that contains itself through an alias, which other
readers compose (`yaml.safe_load`), is refused here.

Results:
* `read_empty`: an empty text is null.
* `read_of_unprintable`: nothing is read from a text with control characters.
* `collect_eq_ok_iff`: a list of results is good if each is.
-/

namespace AlbListener.Yaml

/-! ## Scalars -/

/-- The truth value that a word stands for, in letters of any case. -/
def truth (s : String) : Except Fault Value :=
  let word := s.map Char.toLower
  if trueWords.contains word then .ok (.truth true)
  else if falseWords.contains word then .ok (.truth false)
  else .error (.noMember word)

/-- The date or moment that a scalar stands for. -/
def time (s : String) : Except Fault Value :=
  match Timestamp.ofChars? s.toList with
  | none => .error (.noAccess .null "groupdict")
  | some stamp =>
    let checked :=
      match stamp.clock? with
      | none => stamp.date.check.map fun _ => Value.date stamp.date
      | some clock => (stamp.moment clock).check.map fun _ => .moment (stamp.moment clock)
    checked.mapError fun problem => .invalid (.time problem)

/-- The value of a scalar of some sort. -/
def scalarValue (tag : Tag) (s : String) : Except Problem Value :=
  match tag with
  | .null => .ok .null
  | .truth => (truth s).mapError .fault
  | .integer => ((integer s).map .integer).mapError .fault
  | .number => ((number s).map .number).mapError .fault
  | .time => (time s).mapError .fault
  | .text => .ok (.text s)
  | .bytes =>
    match Text.decodeBase64? s.toList with
    | some bytes => if s.toList.all (·.toNat < 0x80) then .ok (.bytes bytes) else .error .value
    | none => .error .value
  | _ => .error .value

/-! ## Collections -/

/-- A problem with a value, and in how many collections it lies. -/
structure Refusal where
  depth : Nat
  problem : Problem

/-- Two results, or the refusal that lies less deep, the first of two that lie equally deep. -/
def both {α β : Type} (a : Except Refusal α) (b : Except Refusal β) : Except Refusal (α × β) :=
  match a, b with
  | .ok x, .ok y => .ok (x, y)
  | .ok _, .error e => .error e
  | .error e, .ok _ => .error e
  | .error e, .error f => .error (if f.depth < e.depth then f else e)

/-- All results, or the refusal that lies least deep, the first of those. -/
def collect {α : Type} : List (Except Refusal α) → Except Refusal (List α)
  | [] => .ok []
  | result :: rest => (both result (collect rest)).map fun (x, xs) => x :: xs

/-- A result inside a collection. -/
def inside {α : Type} (result : Except Refusal α) : Except Refusal α :=
  result.mapError fun e => { e with depth := e.depth + 1 }

/-- A value that a node does not stand for. -/
def refuse {α : Type} : Except Refusal α := .error ⟨0, .value⟩

/-- The name and value of a member; a collection is no name. -/
def memberValue (build : Node → Except Refusal Value) (member : Node × Node) :
    Except Refusal (Value × Value) :=
  if member.1.tag.isCollection then refuse else both (build member.1) (build member.2)

/-- The pair that a mapping of one member stands for. -/
def pairValue (build : Node → Except Refusal Value) : Node → Except Refusal Value
  | .mapping _ [(first, second)] =>
    (both (build first) (build second)).map fun (a, b) => .pair a b
  | _ => refuse

/-- The value that a node stands for, with fuel for the nodes inside. -/
def build : Nat → Node → Except Refusal Value
  | 0, _ => refuse
  | fuel + 1, node =>
    let members (ms : Members) : Except Refusal (List (Value × Value)) :=
      match Node.merge fuel ms with
      | some ms => (collect (ms.map (memberValue (build fuel)))).map Value.ofPairs
      | none => refuse
    match node.tag, node with
    | .sequence, .sequence _ elements =>
      inside ((collect (elements.map (build fuel))).map .sequence)
    | .mapping, .mapping _ ms => inside ((members ms).map .mapping)
    | .set, .mapping _ ms => inside ((members ms).map fun ms => .set (ms.map Prod.fst))
    | .orderedMapping, .sequence _ elements | .pairs, .sequence _ elements =>
      inside ((collect (elements.map (pairValue (build fuel)))).map .sequence)
    | tag, node =>
      if tag.isCollection then inside refuse
      else
        match node.text? fuel with
        | some text => (scalarValue tag text).mapError fun problem => ⟨0, problem⟩
        | none => refuse

/-! ## Texts -/

/-- Whether a character may stand in a text. -/
def isPrintable (c : Char) : Bool :=
  let n := c.toNat
  n == 0x09 || n == 0x0A || n == 0x0D || (0x20 ≤ n && n ≤ 0x7E) || n == 0x85
    || (0xA0 ≤ n && n ≤ 0xFFFD) || (0x10000 ≤ n && n ≤ 0x10FFFF)

/-- The value of the document in a text (`yaml.safe_load`). A collection takes a token at least, so
    that no more lie inside each other than there are tokens. An alias inside the node that it names
    is refused, though such a node could be composed. -/
def read (s : String) : Except Problem Value :=
  if s.toList.all isPrintable then
    let tokens := tokens (placed s)
    match Node.ofTokens tokens with
    | .error problem => .error problem
    | .ok none => .ok .null
    | .ok (some root) => (build (tokens.length + 2) root).mapError Refusal.problem
  else .error .character

theorem read_empty : read "" = .ok .null := rfl

theorem read_of_unprintable {s : String} {c : Char} (hc : c ∈ s.toList)
    (h : isPrintable c = false) : read s = .error .character := by
  have hs : s.toList.all isPrintable = false := List.all_eq_false.mpr ⟨c, hc, by simp [h]⟩
  simp [read, hs]

theorem collect_eq_ok_iff {α : Type} {results : List (Except Refusal α)} {xs : List α} :
    collect results = .ok xs ↔ results = xs.map .ok := by
  induction results generalizing xs with
  | nil => cases xs <;> simp [collect]
  | cons result rest ih =>
    rw [collect]
    constructor
    · intro h
      cases result with
      | error e => cases hr : collect rest <;> simp [hr, both, Except.map] at h
      | ok x =>
        cases hr : collect rest with
        | error e => simp [hr, both, Except.map] at h
        | ok ys =>
          obtain rfl : x :: ys = xs := by simpa [hr, both, Except.map] using h
          simp [ih.mp hr]
    · intro h
      cases xs with
      | nil => simp at h
      | cons x xs =>
        obtain ⟨rfl, rfl⟩ := List.cons.inj h
        simp [ih.mpr rfl, both, Except.map]

end AlbListener.Yaml

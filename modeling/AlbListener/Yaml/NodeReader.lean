import AlbListener.Fault
import AlbListener.Yaml.Node
import AlbListener.Yaml.Token

/-!
# Reading nodes

The tree of a text that holds one document, or none. A node may be given a name, and an alias
with that name stands for the node from there on. A node whose sort is not given is a text if
it is quoted, and otherwise of the sort that a plain scalar shows.

Results:
* `ofTokens_nil`: an empty text holds no document.
-/

namespace AlbListener.Yaml

/-- Why a text is refused: it holds a character that is not allowed, it cannot be divided into
    tokens, the tokens do not form a document, another document follows or a name stands for no
    node or for two, or a node does not stand for a value. A scalar may also be at fault by
    itself. -/
inductive Problem
  | character
  | token
  | form
  | document
  | value
  | fault (reason : Fault)

/-- The greatest number that can be asked to be a code point. -/
def largestCode : Nat := 0x7FFFFFFF

/-- Why a document ends at an obstacle. -/
def Obstacle.problem : Obstacle → Problem
  | .noToken => .token
  | .noCharacter code =>
    .fault (if code < 0xE000 then .invalid .loneSurrogate
      else if code ≤ largestCode then .invalid .codePoint else .tooLarge)

/-- What is left of the tokens, what the handles of tags stand for, and the nodes that have
    names; a node that is not complete yet has only its name. -/
structure Source where
  tokens : List Token
  handles : List (String × String)
  anchors : List (String × Option Node)

/-- A step that reads from a source. -/
abbrev Reading (α : Type) := StateT Source (Except Problem) α

namespace Reading

/-! ## Tokens -/

/-- The token that comes next, if there is one. -/
def next? : Reading (Option Token) := do
  match (← get).tokens with
  | [] => return none
  | .broken obstacle :: _ => throw obstacle.problem
  | token :: _ => return some token

/-- Goes on behind the token that comes next. -/
def skip : Reading Unit := modify fun s => { s with tokens := s.tokens.drop 1 }

/-- Whether one of some marks comes next. -/
def sees (marks : List Token) : Reading Bool := do return (← next?).any marks.contains

/-- Goes on behind a mark, if it comes next. -/
def accepts (mark : Token) : Reading Bool := do
  if ← sees [mark] then
    skip
    return true
  else return false

/-! ## In front of a node -/

/-- The address that a handle and the rest of it stand for. -/
def address (sort : SortName) : Reading String := do
  match sort.handle? with
  | none => return sort.rest
  | some handle =>
    match (← get).handles.lookup handle with
    | some start => return start ++ sort.rest
    | none => throw .form

/-- What is said about a node in front of it. -/
structure Properties where
  anchor? : Option String
  address? : Option String

/-- The name in front of a node, if there is one. -/
def anchorName? : Reading (Option String) := do
  match ← next? with
  | some (.anchor name) =>
    skip
    return some name
  | _ => return none

/-- The sort in front of a node, if there is one. -/
def sortName? : Reading (Option SortName) := do
  match ← next? with
  | some (.tag sort) =>
    skip
    return some sort
  | _ => return none

/-- The name and the sort in front of a node, in either order. -/
def properties : Reading Properties := do
  let before? ← anchorName?
  let sort? ← sortName?
  let anchor? ← if before?.isSome then pure before? else if sort?.isSome then anchorName? else pure none
  let address? ←
    match sort? with
    | some sort => some <$> address sort
    | none => pure none
  return { anchor?, address? }

/-- The sort that is given to a node; the address `!` gives none. -/
def Properties.tag? (given : Properties) : Option Tag :=
  given.address?.bind fun address => if address = "!" then none else some (Tag.ofUri address)

/-- Whether a node has to be, even if it is not written. -/
def Properties.isGiven (given : Properties) : Bool := given.anchor?.isSome || given.address?.isSome

/-- The sort of a scalar. -/
def Properties.scalarTag (given : Properties) (isPlain : Bool) (text : String) : Tag :=
  match given.tag? with
  | some tag => tag
  | none => if isPlain || given.address?.isSome then tag text else .text

/-! ## Names of nodes -/

/-- Gives the name to a node that begins; it must not be in use. -/
def beginAnchor (given : Properties) : Reading Unit := do
  match given.anchor? with
  | none => pure ()
  | some name =>
    if ((← get).anchors.lookup name).isSome then throw .document
    else modify fun s => { s with anchors := (name, none) :: s.anchors }

/-- Gives the name to a node that is complete. -/
def endAnchor (given : Properties) (node : Node) : Reading Unit :=
  match given.anchor? with
  | none => pure ()
  | some name => modify fun s => { s with anchors := (name, some node) :: s.anchors }

/-- The node that has a name. It has to be complete, so that no node contains itself. -/
def named (name : String) : Reading Node := do
  match (← get).anchors.lookup name with
  | some (some node) => return node
  | _ => throw .document

/-! ## Nodes -/

/-- Where a node stands: between brackets or braces, in a block, or behind a name in a block,
    where a sequence may begin at the column of the name. -/
inductive Context
  | flow
  | block
  | behindName
  deriving DecidableEq, Repr

/-- How a node begins. -/
inductive Opening
  | scalar (isPlain : Bool) (text : String)
  | flowSequence
  | flowMapping
  | sequence
  | mapping
  | indentless
  | nothing

/-- How the node begins that comes next; the mark of an element is left where it is. -/
def opening (context : Context) (given : Properties) : Reading Opening := do
  match context, ← next? with
  | _, some (.scalar isPlain text) =>
    skip
    return .scalar isPlain text
  | _, some .flowSequenceStart =>
    skip
    return .flowSequence
  | _, some .flowMappingStart =>
    skip
    return .flowMapping
  | .behindName, some .entry => return .indentless
  | .flow, _ => if given.isGiven then return .nothing else throw .form
  | _, some .sequenceStart =>
    skip
    return .sequence
  | _, some .mappingStart =>
    skip
    return .mapping
  | _, _ => if given.isGiven then return .nothing else throw .form

/-- Goes on behind the comma between two elements. -/
def comma (isFirst : Bool) : Reading Unit := do
  if !isFirst then
    if !(← accepts .comma) then throw .form

mutual

/-- The node that comes next, with fuel for the nodes inside. -/
def node (context : Context) : Nat → Reading Node
  | 0 => throw .form
  | fuel + 1 => do
    match ← next? with
    | some (.alias name) =>
      skip
      named name
    | _ =>
      let given ← properties
      let opening ← opening context given
      beginAnchor given
      let node ←
        match opening with
        | .scalar isPlain text => pure (.scalar (given.scalarTag isPlain text) text)
        | .flowSequence => .sequence (given.tag?.getD .sequence) <$> flowElements true fuel
        | .flowMapping => .mapping (given.tag?.getD .mapping) <$> flowMembers true fuel
        | .sequence => .sequence (given.tag?.getD .sequence) <$> elements fuel
        | .mapping => .mapping (given.tag?.getD .mapping) <$> members fuel
        | .indentless => .sequence (given.tag?.getD .sequence) <$> indentless fuel
        | .nothing => pure (.scalar (given.scalarTag true "") "")
      endAnchor given node
      return node

/-- The node that comes next, which is empty if one of some marks does. -/
def optional (context : Context) (marks : List Token) : Nat → Reading Node
  | 0 => throw .form
  | fuel + 1 => do if ← sees marks then return .empty else node context fuel

/-- The elements of a block sequence up to its end. -/
def elements : Nat → Reading (List Node)
  | 0 => throw .form
  | fuel + 1 => do
    if ← accepts .blockEnd then return []
    else if ← accepts .entry then
      let element ← optional .block [.entry, .blockEnd] fuel
      return element :: (← elements fuel)
    else throw .form

/-- The elements of a sequence at the column of its name. -/
def indentless : Nat → Reading (List Node)
  | 0 => throw .form
  | fuel + 1 => do
    if ← accepts .entry then
      let element ← optional .block [.entry, .name, .value, .blockEnd] fuel
      return element :: (← indentless fuel)
    else return []

/-- The node behind a name, which is empty if there is no colon or one of some marks follows
    it. -/
def behindColon (context : Context) (marks : List Token) : Nat → Reading Node
  | 0 => throw .form
  | fuel + 1 => do if ← accepts .value then optional context marks fuel else return .empty

/-- The members of a block mapping up to its end. -/
def members : Nat → Reading Members
  | 0 => throw .form
  | fuel + 1 => do
    if ← accepts .blockEnd then return []
    else if ← accepts .name then
      let name ← optional .behindName [.name, .value, .blockEnd] fuel
      let value ← behindColon .behindName [.name, .value, .blockEnd] fuel
      return (name, value) :: (← members fuel)
    else throw .form

/-- The elements between brackets up to the closing one; a name begins a mapping of one
    member. -/
def flowElements (isFirst : Bool) : Nat → Reading (List Node)
  | 0 => throw .form
  | fuel + 1 => do
    if ← accepts .flowSequenceEnd then return []
    else
      comma isFirst
      if ← accepts .flowSequenceEnd then return []
      else if ← accepts .name then
        let name ← optional .flow [.value, .comma, .flowSequenceEnd] fuel
        let value ← behindColon .flow [.comma, .flowSequenceEnd] fuel
        return .mapping .mapping [(name, value)] :: (← flowElements false fuel)
      else
        let element ← node .flow fuel
        return element :: (← flowElements false fuel)

/-- The members between braces up to the closing one. -/
def flowMembers (isFirst : Bool) : Nat → Reading Members
  | 0 => throw .form
  | fuel + 1 => do
    if ← accepts .flowMappingEnd then return []
    else
      comma isFirst
      if ← accepts .flowMappingEnd then return []
      else if ← accepts .name then
        let name ← optional .flow [.value, .comma, .flowMappingEnd] fuel
        let value ← behindColon .flow [.comma, .flowMappingEnd] fuel
        return (name, value) :: (← flowMembers false fuel)
      else
        let name ← node .flow fuel
        return (name, .empty) :: (← flowMembers false fuel)

end

/-! ## Documents -/

/-- What the handles of tags stand for if nothing else is said. -/
def defaultHandles : List (String × String) := [("!", "!"), ("!!", Tag.uriPrefix)]

/-- What is said in front of a document: whether a version was given, and the handles. A version
    must be one of format 1, and nothing may be said twice. -/
def directives (hasVersion : Bool) (handles : List (String × String)) :
    Nat → Reading (List (String × String))
  | 0 => throw .form
  | fuel + 1 => do
    match ← next? with
    | some (.directive (.version major _)) =>
      skip
      if hasVersion || major != 1 then throw .form else directives true handles fuel
    | some (.directive (.handle handle address)) =>
      skip
      if (handles.lookup handle).isSome then throw .form
      else directives hasVersion ((handle, address) :: handles) fuel
    | some (.directive .other) =>
      skip
      directives hasVersion handles fuel
    | _ => return handles

/-- Reads what stands in front of a document up to the mark that begins it. -/
def documentStart (fuel : Nat) : Reading Unit := do
  let handles ← directives false [] fuel
  modify fun s => { s with handles := handles ++ defaultHandles }
  if !(← accepts .documentStart) then throw .form

/-- Goes on behind the marks that end a document. -/
def documentEnds : Nat → Reading Unit
  | 0 => throw .form
  | fuel + 1 => do if ← accepts .documentEnd then documentEnds fuel

/-- Whether a directive comes next. -/
def seesDirective : Reading Bool := do
  match ← next? with
  | some (.directive _) => return true
  | _ => return false

/-- The content of a document that began with a mark. -/
def documentContent (fuel : Nat) : Reading Node := do
  if ← seesDirective then return .empty
  else if (← next?).isNone then return .empty
  else optional .block [.documentStart, .documentEnd] fuel

/-- The one document of a text, if it holds one. -/
def document? (fuel : Nat) : Reading (Option Node) := do
  if (← next?).isNone then return none
  else
    let root ←
      if (← seesDirective) || (← sees [.documentStart]) then
        documentStart fuel
        documentContent fuel
      else node .block fuel
    documentEnds fuel
    if (← next?).isNone then return some root
    else
      documentStart fuel
      throw .document

end Reading

/-- The document of all tokens of a text. Each token leads into three nodes inside each other at
    most, so that thrice their number is fuel enough. -/
def Node.ofTokens (tokens : List Token) : Except Problem (Option Node) :=
  (Reading.document? (3 * tokens.length + 3)).run' ⟨tokens, Reading.defaultHandles, []⟩

theorem Node.ofTokens_nil : Node.ofTokens [] = .ok none := rfl

end AlbListener.Yaml

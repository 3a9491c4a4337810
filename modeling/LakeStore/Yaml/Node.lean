import LakeStore.Yaml.Scalar
import LakeStore.Yaml.Token

/-!
From tokens to the nodes of a document.

A node may be given a name, under which it can stand in other places too, even inside itself, and a tag,
which says what it is. So the nodes of a document are a graph, and they are numbered. The faults of names
and of tokens are found in the order in which the document is read.
-/

namespace LakeStore.Yaml

/-- What a node consists of. The parts of a collection are given by their numbers. -/
inductive Content where
  | scalar (text : String)
  | sequence (items : List Nat)
  | mapping (entries : List (Nat × Nat))
  deriving DecidableEq, Repr

/-- A node. -/
structure Node where
  tag : Tag
  content : Content
  deriving DecidableEq, Repr

instance : Inhabited Node := ⟨⟨.null, .scalar ""⟩⟩

/-- The nodes of a document, and the number of its outermost one. A node may be part of several others, and
even of itself. -/
structure Graph where
  nodes : Array Node
  root : Nat

namespace Node

/-- What stands where nothing is written. -/
def nothing : Node := ⟨.null, .scalar ""⟩

/-- What is read of a document: the tokens ahead, the nodes so far, those that have names, and the short
forms of tags. -/
structure Reading where
  tokens : List Token
  nodes : Array Node := #[]
  anchors : List (String × Nat) := []
  shortcuts : List (String × String) := []
  versioned : Bool := false

/-- A part of a document, read from its tokens. -/
abbrev Read := StateT Reading (Except Fault)

/-- The next token. -/
def peek : Read Token := do
  match (← get).tokens with
  | .fault f :: _ => throw f
  | t :: _ => return t
  | [] => return .streamEnd

/-- Passes over the next token. -/
def drop : Read Unit := modify fun r => { r with tokens := r.tokens.tail }

/-- Passes over a token, if it is the next one. -/
def accept (t : Token) : Read Bool := do
  if (← peek) = t then
    drop
    return true
  else return false

/-- Passes over a token that has to be the next one. -/
def expect (t : Token) : Read Unit := do
  if !(← accept t) then throw .grammar

/-- Everything up to the first `none`. -/
def many {α : Type} (part : Read (Option α)) : (fuel : Nat) → Read (List α)
  | 0 => throw .grammar
  | fuel + 1 => do
    match ← part with
    | some a => return a :: (← many part fuel)
    | none => return []

/-- Everything up to the first `none`; each part takes a token at least. -/
def all {α : Type} (part : Read (Option α)) : Read (List α) := do many part ((← get).tokens.length + 1)

/-! ### Names and tags -/

/-- A further node. -/
def add (n : Node) : Read Nat :=
  modifyGet fun r => (r.nodes.size, { r with nodes := r.nodes.push n })

/-- Says what a node is whose number is known already. -/
def settle (number : Nat) (n : Node) : Read Nat :=
  modifyGet fun r => (number, { r with nodes := r.nodes.setIfInBounds number n })

/-- Gives a name to a node. -/
def declare (name : String) (number : Nat) : Read Unit := do
  if (← get).anchors.any (·.1 = name) then throw .reference
  modify fun r => { r with anchors := (name, number) :: r.anchors }

/-- The node of a name. -/
def known (name : String) : Read Nat := do
  match (← get).anchors.lookup name with
  | some number => return number
  | none => throw .reference

/-- The short forms that every document has. -/
def standardShortcuts : List (String × String) := [("!", "!"), ("!!", Tag.lead)]

/-- A tag in full. -/
def fullTag (handle : Option String) (suffix : String) : Read String := do
  match handle with
  | none => return suffix
  | some handle =>
    match ((← get).shortcuts ++ standardShortcuts).lookup handle with
    | some lead => return lead ++ suffix
    | none => throw .grammar

/-- The name here, if one is given. -/
def anchor? : Read (Option String) := do
  match ← peek with
  | .anchor name => do
    drop
    return some name
  | _ => return none

/-- The tag here, if there is one. -/
def tag? : Read (Option (Option String × String)) := do
  match ← peek with
  | .tag handle suffix => do
    drop
    return some (handle, suffix)
  | _ => return none

/-- A name and a tag, in either order. -/
def properties : Read (Option String × Option String) := do
  let before ← anchor?
  let tag ← tag?
  let behind ← if before.isNone && tag.isSome then anchor? else pure none
  return (before <|> behind, ← tag.mapM fun t => fullTag t.1 t.2)

/-! ### Collections -/

/-- Where a node stands. As a key or a value of a block, a sequence needs no indentation of its own. -/
inductive Place where
  | block
  | part
  | flow
  deriving DecidableEq

variable (node : Place → Read Nat)

/-- Nothing, if one of some tokens comes next, and a node otherwise. -/
def nodeUnless (ends : List Token) (place : Place) : Read Nat := do
  if ends.contains (← peek) then add nothing else node place

/-- A value after its mark. -/
def valueUnless (ends : List Token) (place : Place) : Read Nat := do
  if ← accept .value then nodeUnless node ends place else add nothing

/-- An item of an indented sequence. -/
def blockItem : Read (Option Nat) := do
  if ← accept .blockEntry then return some (← nodeUnless node [.blockEntry, .blockEnd] .block)
  expect .blockEnd
  return none

/-- An item of a sequence that is not indented. -/
def looseItem : Read (Option Nat) := do
  if ← accept .blockEntry then
    return some (← nodeUnless node [.blockEntry, .key, .value, .blockEnd] .block)
  return none

/-- An entry of a block. -/
def blockEntry : Read (Option (Nat × Nat)) := do
  let ends := [.key, .value, .blockEnd]
  if ← accept .key then return some (← nodeUnless node ends .part, ← valueUnless node ends .part)
  expect .blockEnd
  return none

/-- A part of a flow collection, with the comma before it. -/
def flowPart {α : Type} (ending : Token) (first : Bool) (part : Read α) : Read (Option α) := do
  if ← accept ending then return none
  if !first then expect .flowEntry
  if !first && (← accept ending) then return none
  return some (← part)

/-- The parts of a flow collection. -/
def flowParts {α : Type} (ending : Token) (part : Read α) : Read (List α) := do
  match ← flowPart ending true part with
  | some a => return a :: (← all (flowPart ending false part))
  | none => return []

/-- An entry of a flow collection, behind the mark of its key. -/
def flowPair (ending : Token) : Read (Nat × Nat) := do
  return (← nodeUnless node [.value, .flowEntry, ending] .flow, ← valueUnless node [.flowEntry, ending] .flow)

/-- An item of a flow sequence. A pair stands for a mapping with one entry. -/
def flowItem : Read Nat := do
  if ← accept .key then add ⟨.mapping, .mapping [← flowPair node .flowSequenceEnd]⟩ else node .flow

/-- An entry of a flow mapping. -/
def flowEntry : Read (Nat × Nat) := do
  if ← accept .key then flowPair node .flowMappingEnd else return (← node .flow, ← add nothing)

/-! ### Nodes -/

/-- What a tag that is written stands for; a lone mark is none. -/
def tagOr (tag : Option String) (implied : Tag) : Tag := ((tag.filter (· != "!")).map Tag.ofName).getD implied

/-- A scalar. One in quotes or as a block is a text unless a tag says otherwise, and a lone mark as a tag
makes every scalar a plain one. -/
def ofScalar (tag : Option String) (text : String) (plain : Bool) : Node :=
  ⟨tagOr tag (if plain || tag == some "!" then Scalar.looks text else .text), .scalar text⟩

/-- What a node consists of, if anything that a node can consist of comes next. -/
def body? (tag : Option String) (place : Place) : Read (Option (Read Node)) := do
  let sequence (items : List Nat) : Node := ⟨tagOr tag .sequence, .sequence items⟩
  let mapping (entries : List (Nat × Nat)) : Node := ⟨tagOr tag .mapping, .mapping entries⟩
  let isBlock := place ≠ .flow
  match ← peek with
  | .scalar text plain => return some do
    drop
    return ofScalar tag text plain
  | .flowSequence => return some do
    drop
    return sequence (← flowParts .flowSequenceEnd (flowItem node))
  | .flowMapping => return some do
    drop
    return mapping (← flowParts .flowMappingEnd (flowEntry node))
  | .blockSequence => return if isBlock then some do
      drop
      return sequence (← all (blockItem node))
    else none
  | .blockMapping => return if isBlock then some do
      drop
      return mapping (← all (blockEntry node))
    else none
  | .blockEntry => return if place = .part then some do
      return sequence (← all (looseItem node))
    else none
  | _ => return none

/-- A node. Where there is a name or a tag, there may be nothing else. -/
def single (place : Place) : Read Nat := do
  match ← peek with
  | .alias name => do
    drop
    known name
  | _ =>
    let (name, tag) ← properties
    let body ←
      match ← body? node tag place with
      | some body => pure body
      | none => if name.isSome || tag.isSome then pure (return ofScalar tag "" true) else throw .grammar
    let number ← add nothing
    if let some name := name then declare name number
    settle number (← body)

/-- The deepest nesting that is read. -/
def greatestDepth : Nat := 485

/-- A node that is nested less deep than some bound. -/
def nested : (depth : Nat) → Place → Read Nat
  | 0, _ => throw .depth
  | depth + 1, place => single (nested depth) place

/-- A node. -/
def read (place : Place) : Read Nat := nested greatestDepth place

/-! ### Documents -/

/-- A directive, if there is one. -/
def directive : Read (Option Unit) := do
  let r ← get
  match ← peek with
  | .version major => do
    if r.versioned ∨ major ≠ 1 then throw .grammar
    set { r with tokens := r.tokens.tail, versioned := true }
    return some ()
  | .shortcut handle lead => do
    if r.shortcuts.any (·.1 = handle) then throw .grammar
    set { r with tokens := r.tokens.tail, shortcuts := (handle, lead) :: r.shortcuts }
    return some ()
  | .directive => do
    drop
    return some ()
  | _ => return none

/-- The end of a document, if it is marked. -/
def documentEnd : Read (Option Unit) := do return if ← accept .documentEnd then some () else none

/-- The start of a further document: whether there is one. -/
def opens : Read Bool := do
  discard (all documentEnd)
  if (← peek) = .streamEnd then return false
  modify fun r => { r with shortcuts := [], versioned := false }
  discard (all directive)
  expect .documentStart
  return true

/-- Whether a token stands in front of a document. -/
def isHead : Token → Bool
  | .version _ | .shortcut .. | .directive | .documentStart => true
  | _ => false

/-- The node of the first document; its start need not be marked. -/
def first : Read (Option Nat) := do
  let t ← peek
  if t = .streamEnd then return none
  if !isHead t then return some (← read .block)
  if !(← opens) then return none
  let t ← peek
  if isHead t ∨ t = .documentEnd ∨ t = .streamEnd then return some (← add nothing)
  return some (← read .block)

/-- The nodes of the only document, if there is one. -/
def only : Read (Option Graph) := do
  let root ← first
  if root.isSome then
    discard (accept .documentEnd)
    if ← opens then throw .reference
  let nodes := (← get).nodes
  return root.map (Graph.mk nodes)

/-- The nodes of a document, if there is one. -/
def ofTokens (tokens : List Token) : Except Fault (Option Graph) := only.run' { tokens }

end Node

end LakeStore.Yaml

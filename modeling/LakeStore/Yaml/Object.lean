import LakeStore.Yaml.Node

/-!
From nodes to what they stand for.

Objects have the numbers of their nodes, so a node that is part of several others stands for one object in all
of them. A collection is filled only after the one that it is part of: collections that are open wait in line.
A mapping may take over the entries of others; its own count more.
-/

namespace LakeStore.Yaml

/-- What a node stands for. The parts of a collection are given by their numbers. -/
inductive Object where
  | plain (v : Value)
  | list (items : List Nat)
  | table (entries : List (Value × Nat))
  | set (items : List Value)
  deriving Repr

/-- Objects, as far as they are built. -/
structure Building where
  nodes : Array Node
  objects : Array (Option Object)
  /-- The collections that wait to be filled, the last one first. -/
  waiting : List Nat := []

/-- A step of building objects. -/
abbrev Build := StateT Building (Except Fault)

namespace Build

/-- A node by its number. -/
def node (n : Nat) : Build Node := return (← get).nodes[n]?.getD Node.nothing

/-- The entries of a mapping; no other node has any. -/
def entries (n : Nat) : Build (List (Nat × Nat)) := do
  match (← node n).content with
  | .mapping entries => return entries
  | _ => return []

/-- Changes a node. -/
def change (n : Nat) (f : Node → Node) : Build Unit := modify fun b => { b with nodes := b.nodes.modify n f }

/-- Gives other entries to a mapping. -/
def setEntries (n : Nat) (entries : List (Nat × Nat)) : Build Unit :=
  change n fun node => { node with content := .mapping entries }

/-- Says what a node stands for. -/
def settle (n : Nat) (o : Object) : Build Unit :=
  modify fun b => { b with objects := b.objects.setIfInBounds n (some o) }

/-! ### Mappings that take over others -/

section

variable (flatten : Nat → Build Unit)

/-- The entries of a mapping that is taken over. -/
def taken (n : Nat) : Build (List (Nat × Nat)) := do
  match (← node n).content with
  | .mapping _ => flatten n
  | _ => throw .type
  entries n

/-- The entries that a mark takes over: those of one mapping, or those of several, the first of which comes
last. -/
def takenBy (n : Nat) : Build (List (Nat × Nat)) := do
  match (← node n).content with
  | .mapping _ => taken flatten n
  | .sequence items => return (← items.mapM (taken flatten)).reverse.flatten
  | .scalar _ => throw .type

/-- Passes over some entries of a mapping from an index on, and gives those that are taken over in their
course. A mark is removed before what it marks is looked at, and the mark of a principal entry becomes a
text. -/
def scan (n : Nat) : (count index : Nat) → Build (List (Nat × Nat))
  | 0, _ => return []
  | count + 1, index => do
    let own ← entries n
    match own[index]? with
    | none => return []
    | some (key, value) =>
      match (← node key).tag with
      | .merge =>
        setEntries n (own.eraseIdx index)
        let first ← takenBy flatten value
        return first ++ (← scan n count index)
      | .principal =>
        change key fun node => { node with tag := .text }
        scan n count (index + 1)
      | _ => scan n count (index + 1)

end

/-- Puts the entries that a mapping takes over before its own, at most some mappings deep. -/
def flattenWithin : (depth : Nat) → Nat → Build Unit
  | 0, _ => throw .depth
  | depth + 1, n => do
    let more ← scan (flattenWithin depth) n (← entries n).length 0
    if more ≠ [] then setEntries n (more ++ (← entries n))

/-- Puts the entries that a mapping takes over before its own. Every mapping on the way gives up a mark, so
their number bounds the way. -/
def flatten (n : Nat) : Build Unit := do
  let count := (← get).nodes.foldl (fun sum node => match node.content with
    | .mapping entries => sum + entries.length
    | _ => sum) 1
  flattenWithin count n

/-! ### Objects -/

/-- The text of a scalar, or that of the principal entry of a mapping, at most some mappings deep. -/
def textWithin : (depth : Nat) → Nat → Build String
  | 0, _ => throw .depth
  | depth + 1, n => do
    match (← node n).content with
    | .scalar text => return text
    | .sequence _ => throw .type
    | .mapping entries =>
      match ← entries.findM? fun e => return (← node e.1).tag == .principal with
      | some (_, value) => textWithin depth value
      | none => throw .type

/-- The text of a node. -/
def text (n : Nat) : Build String := do textWithin (← get).nodes.size n

/-- Whether a node is a scalar. -/
def isScalar (n : Nat) : Build Bool := do
  match (← node n).content with
  | .scalar _ => return true
  | _ => return false

/-- Has an object that will be filled later. -/
def enter (n : Nat) (o : Object) : Build Unit := do
  settle n o
  modify fun b => { b with waiting := n :: b.waiting }

/-- The object of a node, built unless it is there. Collections are built empty. -/
def object (n : Nat) : Build Unit := do
  if ((← get).objects[n]?.join).isNone then
    match (← node n).tag with
    | .sequence | .pairs => enter n (.list [])
    | .mapping => enter n (.table [])
    | .set => enter n (.set [])
    | .time =>
      let s ← text n
      if ← isScalar n then settle n (.plain (← Scalar.value s .time)) else throw .collection
    | .merge | .principal | .other => throw .type
    | tag => settle n (.plain (← Scalar.value (← text n) tag))

/-- The object of a node as a key. No collection is one. -/
def key (n : Nat) : Build Value := do
  object n
  match (← get).objects[n]?.join with
  | some (.plain v) => return v
  | _ => throw .type

/-- The entries of a mapping, by their keys. A later entry of the same key counts, at the place of the
first. -/
def table (n : Nat) : Build (List (Value × Nat)) := do
  match (← node n).content with
  | .mapping _ =>
    flatten n
    (← entries n).foldlM (fun found (k, v) => do
      let key ← key k
      object v
      return Value.putKeyed key v found) []
  | _ => throw .type

/-- The pair that a mapping with one entry stands for, as a further object. -/
def pair (n : Nat) : Build Nat := do
  match (← node n).content with
  | .mapping [(key, value)] =>
    object key
    object value
    modifyGet fun b => (b.objects.size, { b with objects := b.objects.push (some (.list [key, value])) })
  | _ => throw .type

/-- Fills a collection that waits. -/
def fill (n : Nat) : Build Unit := do
  let node ← node n
  match node.tag, node.content with
  | .sequence, .sequence items =>
    items.forM object
    settle n (.list items)
  | .pairs, .sequence items => settle n (.list (← items.mapM pair))
  | .mapping, _ => settle n (.table (← table n))
  | .set, _ => settle n (.set ((← table n).map Prod.fst))
  | _, _ => throw .type

/-- Fills all collections that wait, in turns. Every turn fills a node at least. -/
def fillAll : (turns : Nat) → Build Unit
  | 0 => return
  | turns + 1 => do
    let waiting := (← get).waiting.reverse
    if waiting ≠ [] then
      modify fun b => { b with waiting := [] }
      waiting.forM fill
      fillAll turns

end Build

/-- The objects of some nodes, by number. -/
def Graph.objects (g : Graph) : Except Fault (Array (Option Object)) := do
  let build : Build Unit := do
    Build.object g.root
    Build.fillAll g.nodes.size
  let (_, b) ← build.run { nodes := g.nodes, objects := Array.replicate g.nodes.size none }
  return b.objects

/-! ### Values -/

namespace Object

/-- How far the value of an object is known. -/
inductive Progress where
  | unseen
  /-- It is a part of itself if it is met again. -/
  | entered
  | known (v : Value)

/-- The values of objects, as far as they are known, and whether one of them is a part of itself. -/
structure Unfolding where
  progress : Array Progress
  isEndless : Bool := false

/-- The value of an object. One that is met inside itself has its earlier value there. -/
def valueWithin (objects : Array (Option Object)) (earlier : Nat → Value) :
    (depth : Nat) → Nat → StateM Unfolding Value
  | 0, _ => return .endless
  | depth + 1, n => do
    match (← get).progress[n]?.getD .unseen with
    | .known v => return v
    | .entered =>
      modify fun u => { u with isEndless := true }
      return earlier n
    | .unseen =>
      modify fun u => { u with progress := u.progress.setIfInBounds n .entered }
      let v ←
        match objects[n]?.join with
        | none => pure .null
        | some (.plain v) => pure v
        | some (.list items) => pure (.list (← items.mapM (valueWithin objects earlier depth)))
        | some (.table entries) =>
          pure (Value.ofKeyed (← entries.mapM fun (key, m) =>
            return (key, ← valueWithin objects earlier depth m)))
        | some (.set items) => pure (.set items)
      modify fun u => { u with progress := u.progress.setIfInBounds n (.known v) }
      return v

/-- How often a value that contains itself is unfolded. No path that is looked at is longer. -/
def unfoldings : Nat := 5

/-- The value of an object, with values that contain themselves unfolded a number of times. -/
def unfold (objects : Array (Option Object)) (root : Nat) : (times : Nat) → (earlier : Nat → Value) → Value
  | 0, earlier => earlier root
  | times + 1, earlier =>
    let start : Unfolding := { progress := Array.replicate objects.size .unseen }
    let (v, u) := (valueWithin objects earlier (objects.size + 1) root).run start
    if u.isEndless then
      unfold objects root times fun n =>
        match u.progress[n]?.getD .unseen with
        | .known v => v
        | _ => .endless
    else v

end Object

/-- The value of some nodes. -/
def Graph.value (g : Graph) : Except Fault Value := do
  return Object.unfold (← g.objects) g.root Object.unfoldings fun _ => .endless

end LakeStore.Yaml

import LakeStore.Blob.Record
import LakeStore.Key
import LakeStore.Remote.Exchange
import LakeStore.Remote.Payload

/-!
Flat and delimited listings of a directory tree.

A walk fetches one directory at a time and emits its rows depth first: the row of a directory stands before
all rows of its subtree. It keeps the children that are still to be visited on an agenda. A hint how many
keys are wanted is counted down and noted when it is used up, but never shortens the walk. Nothing in the
remote's answers bounds a walk, so the number of directories that it may enter is given to it.
-/

namespace LakeStore.Listing

open Remote (FileStatus)

/-- Conversations with a tree: a path is answered by the statuses of its children, or by a fault. -/
abbrev protocol : Protocol where
  Question := String
  Answer := fun _ => Except Fault (List FileStatus)

/-- The number of keys that are still wanted, if any number is. -/
abbrev Budget := Option Int

namespace Budget

/-- The budget after `count` more keys. -/
def after (budget : Budget) (count : Int) : Budget := budget.map fun n => max 0 (n - count)

/-- Whether `count` more keys use the budget up. -/
def isSpentBy (budget : Budget) (count : Int) : Bool :=
  match budget with
  | some n => 0 < n && n - count ≤ 0
  | none => false

/-- The record that a budget was used up. -/
def spentNote : Log.Note where
  source := .listing
  level := .debug
  message := "listing key budget exhausted; continuing walk"

/-- Counts keys off a budget. -/
def consume {P : Protocol} (count : Int) : StateT Budget (Dialogue P) Unit := fun budget => do
  if budget.isSpentBy count then Dialogue.log spentNote
  pure ((), budget.after count)

end Budget

/-- A row in the order in which a walk emits it. -/
inductive Row where
  | item (i : Blob.Item)
  | folder (f : Blob.Folder)
  deriving DecidableEq, Repr

/-- A walk: it talks to a tree, keeps a budget, and may fail. -/
abbrev Walk (α : Type) := ExceptT Fault (StateT Budget (Dialogue protocol)) α

/-- The statuses at a path. -/
def fetch (path : String) : Walk (List FileStatus) :=
  ExceptT.mk (StateT.lift (Dialogue.question (P := protocol) path))

/-- The row of an object. A count of milliseconds that is no instant fails the walk. -/
def itemRow (key : String) (s : FileStatus) : Except Fault Row :=
  match s.lastModified with
  | .ok t => .ok (.item ⟨key, s.length, some (Moment.ofInstant t)⟩)
  | .error e => .error (.time e)

/-- Whether the statuses at a path say that it names an object itself: there is one, without a name. -/
def isObject : List FileStatus → Bool
  | [s] => s.pathSuffix == ""
  | _ => false

/-- The row of the directory that is listed: a delimited listing shows it, the root apart. -/
def selfRows (recursive : Bool) (path : String) : List Row :=
  if path = "" ∨ recursive then []
  else if Key.namesDirectory path then [.item { key := path }]
  else [.folder ⟨Key.placeholder path⟩]

/-- A child that is still to be visited, with the key of its parent. -/
abbrev Visit := String × FileStatus

/-- Fetches a path: its own rows, and the children to visit. -/
def expand (recursive : Bool) (path : String) : Walk (List Row × List Visit) := do
  let statuses ← fetch path
  if path ≠ "" ∧ isObject statuses then
    -- what ends with the delimiter cannot name an object
    if Key.namesDirectory path then return ([], [])
    else return (← statuses.mapM (liftM ∘ itemRow path), [])
  else
    Budget.consume (P := protocol) statuses.length
    return (selfRows recursive path, statuses.map fun s => (Key.stem path, s))

/-- Visits the children on the agenda up to the next directory to enter, which `enter` goes on from. -/
def visit (recursive : Bool) (enter : String → List Visit → Walk (List Row)) : List Visit → Walk (List Row)
  | [] => return []
  | (parent, s) :: rest => do
    let key := Key.child parent s.pathSuffix
    if !s.isDirectory then
      let row ← liftM (itemRow key s)
      return row :: (← visit recursive enter rest)
    else if recursive then
      let row ← liftM (itemRow (Key.placeholder key) s)
      return row :: (← enter key rest)
    else
      return .folder ⟨Key.placeholder key⟩ :: (← visit recursive enter rest)

/-- Visits all children on the agenda and all that lies below them, entering at most `limit`
directories. -/
def visitAll (recursive : Bool) : (limit : Nat) → List Visit → Walk (List Row)
  | 0 => visit recursive fun _ _ => throw .unfinished
  | limit + 1 => visit recursive fun key rest => do
    let (rows, children) ← expand recursive key
    return rows ++ (← visitAll recursive limit (children ++ rest))

/-- Whether a fault says that a path does not exist. -/
def isMissing : Fault → Bool
  | .store (.final .notFound ..) => true
  | _ => false

/-- Lists a path and, if `recursive`, all directories below it. Only a missing root lists as empty. -/
def walk (recursive : Bool) (limit : Nat) (path : String) : Walk (List Row) := do
  match ← ExceptT.lift (expand recursive path).run with
  | .ok (rows, children) => return rows ++ (← visitAll recursive limit children)
  | .error fault => if isMissing fault then return [] else throw fault

/-- Whether a key is behind a marker; no marker and the empty one hold nothing back. -/
def isAfter (marker : Option String) (key : String) : Bool :=
  match marker with
  | none => true
  | some m => m == "" || decide (m < key)

/-- The rows that come after a marker, sorted by kind. -/
def collect (marker : Option String) (rows : List Row) : Blob.Listing where
  folders := rows.filterMap fun
    | .folder f => if isAfter marker f.path then some f else none
    | .item _ => none
  items := rows.filterMap fun
    | .item i => if isAfter marker i.key then some i else none
    | .folder _ => none

end LakeStore.Listing

import LakeStore.Text.Blank
import LakeStore.Value

/-!
Manifests by which storage backends declare themselves: an identifier, a name, the scheme of the endpoints
they serve, and the roots of their modules.

A manifest is only made of parts that are well formed. A scheme holds no colon, so that an endpoint can
start with the mark of one scheme only.
-/

namespace LakeStore

/-- Why a manifest is not made or not registered. -/
inductive ManifestError where
  | componentId (id : String)
  | emptyName
  | scheme (scheme : String)
  | noRoots
  | root (root : String)
  /-- The identifier belongs to another manifest. -/
  | duplicate (id : String)
  /-- The scheme belongs to the backend `owner`. -/
  | claimed (scheme owner : String)
  | unknown (id : String)
  deriving DecidableEq, Repr

/-- What is wrong, in words. -/
def ManifestError.message : ManifestError → String
  | .componentId id => "invalid component id '" ++ id ++ "'; expected ^[a-z][a-z0-9_]\x7b1,62\x7d$"
  | .emptyName => "name must not be empty"
  | .scheme s => "invalid endpoint scheme '" ++ s ++ "'"
  | .noRoots => "module_roots must not be empty"
  | .root r => "invalid module root '" ++ r ++ "'"
  | .duplicate id => "duplicate backend id with mismatched definition: " ++ id
  | .claimed s owner => "endpoint scheme '" ++ s ++ "' already claimed by " ++ owner
  | .unknown id => "backend not registered: " ++ id

/-- The declaration of a backend. The roots are sorted and distinct. -/
structure Manifest where
  id : String
  name : String
  scheme : String
  roots : List String
  deriving DecidableEq, Repr

namespace Manifest

/-- Whether a text starts with a character of `first` and goes on with characters of `more`. -/
def isWord (first more : Char → Bool) : List Char → Bool
  | [] => false
  | c :: rest => first c && rest.all more

/-- A lowercase letter, then one to sixty-two lowercase letters, digits and underscores. -/
def isComponentId (s : String) : Bool :=
  isWord Char.isLower (fun c => c.isLower || c.isDigit || c = '_') s.toList
    && 2 ≤ s.length && s.length ≤ 63

/-- A lowercase letter, then lowercase letters, digits, and the marks of a scheme. -/
def isScheme (s : String) : Bool :=
  isWord Char.isLower (fun c => c.isLower || c.isDigit || c = '+' || c = '.' || c = '-') s.toList

/-- A letter or an underscore, then letters, digits and underscores. -/
def isName (cs : List Char) : Bool :=
  isWord (fun c => c.isAlpha || c = '_') (fun c => c.isAlphanum || c = '_') cs

/-- Names with points between them. -/
def isRoot (s : String) : Bool := (Text.pieces ['.'] s.toList).all isName

/-- Texts in order, each one once. -/
def distinct (texts : List String) : List String := (texts.mergeSort (· ≤ ·)).eraseReps

/-- Refuses an identifier that is not well formed. -/
def checkId (id : String) : Except ManifestError Unit :=
  if isComponentId id then .ok () else .error (.componentId id)

/-- Refuses a root that is not well formed. -/
def checkRoot (root : String) : Except ManifestError Unit :=
  if isRoot root then .ok () else .error (.root root)

/-- The manifest of some parts, or the first of them that is not well formed. -/
def make (id name scheme : String) (roots : List String) : Except ManifestError Manifest := do
  let roots := distinct roots
  checkId id
  if Text.strip name = "" then throw .emptyName
  if !isScheme scheme then throw (.scheme scheme)
  if roots = [] then throw .noRoots
  for root in roots do checkRoot root
  return ⟨id, name, scheme, roots⟩

/-- What the endpoints of a scheme start with. -/
def mark (m : Manifest) : String := m.scheme ++ "://"

/-- Whether an endpoint is one of this backend. -/
def claims (m : Manifest) (endpoint : String) : Bool := (Text.after? m.mark endpoint).isSome

/-- The entries of a manifest. -/
def toEntries (m : Manifest) : List (String × Value) :=
  [("id", .text m.id), ("name", .text m.name), ("endpoint_scheme", .text m.scheme),
   ("module_roots", .list (m.roots.map Value.text))]

end Manifest

end LakeStore

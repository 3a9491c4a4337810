import LakeStore.Account
import LakeStore.Manifest

/-!
The registry of backends, from which a consumer picks the one that serves an endpoint.

Identifiers are distinct, and so are schemes. A backend may be registered again if nothing about it changed.
-/

namespace LakeStore

/-- The registered manifests, in the order of their registration. -/
structure Registry where
  manifests : List Manifest := []
  deriving DecidableEq, Repr

namespace Registry

/-- The manifest registered under an identifier. -/
def find? (r : Registry) (id : String) : Option Manifest := r.manifests.find? fun m => m.id == id

/-- Another backend that holds the scheme of a manifest. -/
def rival? (r : Registry) (m : Manifest) : Option Manifest :=
  r.manifests.find? fun other => other.id != m.id && other.scheme == m.scheme

/-- The registry with one more manifest. One that is registered under the same identifier has to be the
same, and keeps its place. -/
def register (r : Registry) (m : Manifest) : Except ManifestError Registry :=
  let registered := r.find? m.id
  if registered.any (· ≠ m) then .error (.duplicate m.id)
  else
    match r.rival? m with
    | some other => .error (.claimed m.scheme other.id)
    | none => .ok (if registered.isSome then r else ⟨r.manifests ++ [m]⟩)

/-- The manifest of a backend that is registered. -/
def get (r : Registry) (id : String) : Except ManifestError Manifest :=
  match r.find? id with
  | some m => .ok m
  | none => .error (.unknown id)

/-- All manifests by identifier. -/
def toList (r : Registry) : List Manifest := r.manifests.mergeSort fun a b => decide (¬ b.id < a.id)

/-- The backend that serves an endpoint. -/
def resolve (r : Registry) (endpoint : String) : Option Manifest := r.toList.find? fun m => m.claims endpoint

/-- The manifest of the lake's own backend. -/
def lake : Manifest := ⟨Account.componentId, "adl", Account.endpointScheme, ["resources.substrates.adl"]⟩

/-- The registry of the backends that come with the library. -/
def standard : Registry := ⟨[lake]⟩

end Registry

end LakeStore

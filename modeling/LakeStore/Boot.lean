import LakeStore.Config
import LakeStore.Log.Setup
import LakeStore.Remote.Transport

/-!
Starting the store: logging is set up first, then the way to the remote.
-/

namespace LakeStore

namespace Config

/-- Starts the store. Logging stays set up even if the store does not start. -/
def boot (c : Config) (setup : Log.Setup) : Except ConfigError Remote.Transport × Log.Setup :=
  let transport := do
    match Remote.Transport.ofAccount (← c.account) with
    | .ok transport => .ok transport
    | .error _ => .error .base
  (transport, (setup.configure c.logging).2)

end Config

end LakeStore

import LakeStore.Remote.Classification

/-!
Calls of the remote that fail with errors of the store.
-/

namespace LakeStore.Remote

/-- Sends one request and fails with the error of its answer, if it has one. With `structured` the body of
a failure is decoded. A call without an answer is a temporary error; faults that have nothing to do with
the exchange pass through. -/
def execute (r : Request) (structured : Bool := false) : Call Response := do
  match ← ExceptT.lift (Dialogue.question (P := protocol) r) with
  | .error (.request failure) => throw (.store (Classification.ofFault (.request failure)))
  | .error fault => throw fault
  | .ok response =>
    match ← ExceptT.lift (Classification.ofResponse response structured) with
    | some e => throw (.store e)
    | none => return response

/-- Sends one request and decodes the payload of its answer. -/
def fetch {α : Type} (read : Value → Checked α) (r : Request) (structured : Bool := false) : Call α := do
  let response ← execute r structured
  liftM (response.decode read)

/-- Sends one request and tells whether it took effect. -/
def takesEffect (r : Request) (structured : Bool := false) : Call Bool := fetch Payload.effect r structured

/-- A record of one part of the store, not about an exchange. -/
def note (source : Log.Source) (level : Log.Level) (message : String) (extra : List (String × Value) := []) :
    Call Unit :=
  ExceptT.lift (Dialogue.log { source, level, message, extra })

end LakeStore.Remote

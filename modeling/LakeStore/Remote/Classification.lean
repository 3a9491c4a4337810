import LakeStore.Remote.Exchange
import LakeStore.Remote.Payload

/-!
From answers of the remote to errors of the store.

The status alone selects an error, and a status that stands for none is logged. On request the body of a
failure is decoded instead, so that the caller can tell failures apart by the remote's own names for them;
such an error can still be collapsed to the one its status selects.
-/

namespace LakeStore.Remote

/-- The remote's name for a missing file. -/
def fileNotFound : String := "FileNotFoundException"

/-- The remote's name for an append at an offset that is not the end. -/
def badOffset : String := "BadOffsetException"

/-- Whether an error is the structured failure of a name. -/
def isNamed (name : String) : StoreError → Bool
  | .remote f => f.exception == name
  | _ => false

namespace Classification

variable {P : Protocol}

/-- A record of an error that belongs to one exchange. -/
def errorNote (message : String) (c : Correlation) : Log.Note where
  source := .classifier
  level := .error
  message := message
  fields := c.fields

/-- The error that the status of an exchange selects. -/
def byStatus (c : Correlation) : Dialogue P StoreError :=
  match Status.error? c.status ("HTTP " ++ toString c.status ++ " for " ++ c.operation.name) with
  | some e => pure e
  | none => do
    Dialogue.log (errorNote "unexpected adl response" c)
    pure (.final .invalidArgument
      ("unexpected HTTP " ++ toString c.status ++ " for " ++ c.operation.name) .null)

/-- The structured failure that a body describes. -/
def described (c : Correlation) (d : Description) : RemoteFailure :=
  { described := d.message, exception := d.exception, status := c.status, javaClass := d.javaClass,
    requestId := c.requestId, responseId := c.responseId, origin := some c }

/-- The error that the body of a failure describes. A body that cannot be read says nothing about the
failure, so that it may be temporary. -/
def byBody (r : Response) : Dialogue P StoreError :=
  match Payload.decode? Payload.description r.body with
  | some d => pure (.remote (described r.correlation d))
  | none => do
    Dialogue.log (errorNote "cannot parse error: <ValidationError>" r.correlation)
    pure (.temporary .transient ("cannot parse error body for HTTP " ++ toString r.status) .null
      (some .undecodable))

/-- The error of an answer, or none if the call succeeded. -/
def ofResponse (r : Response) (structured : Bool) : Dialogue P (Option StoreError) :=
  if r.isSuccess then pure none
  else if structured then do pure (some (← byBody r))
  else do pure (some (← byStatus r.correlation))

/-- What a temporary error that a fault leads to was made of. -/
def causeOf : Fault → Cause
  | .request _ => .noResponse
  | f => .other f.name

/-- The error of a call that got no answer. -/
def ofFault (f : Fault) : StoreError := .temporary .transient f.text .null (some (causeOf f))

/-- A structured failure collapsed to the error that its status selects. -/
def remap (f : RemoteFailure) : Dialogue P StoreError :=
  match f.origin with
  | some c => byStatus c
  | none => pure (Status.errorOrInvalid f.status (StoreError.remote f).text)

end Classification

/-- The payload of a successful answer; one that does not decode may be temporary. -/
def Response.decode {α : Type} (r : Response) (read : Value → Checked α) : Except Fault α :=
  match Payload.decode? read r.body with
  | some a => .ok a
  | none =>
    .error (.store (.temporary .transient ("cannot decode " ++ r.operation.name ++ " response") .null
      (some .undecodable)))

end LakeStore.Remote

import LakeStore.Backend

/-!
The operations of the backend as commands with one kind of reply, so that a caller can choose among them at
run time.
-/

namespace LakeStore.Backend

/-- An operation with its arguments. -/
inductive Command where
  | probe (key : String)
  | head (key : String)
  | list (o : ListOptions)
  | delete (key : String)
  | deleteAll (keys : List String)
  | rename (source destination : String)
  | copy (source destination : String)
  | get (key : String) (o : GetOptions)
  | put (key : String) (body : Blob.Content) (isDirectory : Bool)
  | beginUpload (key : String)
  | addPart (h : Handle) (body : Blob.Content) (size : Int)
  | commitUpload (h : Handle)
  | abortUpload (h : Handle)
  | expireUploads
  | makeContainer
  | removeContainer
  deriving DecidableEq, Repr

/-- What a command is answered with. -/
inductive Reply where
  | done
  | head (h : Blob.Head)
  | listing (l : Blob.Listing)
  | opened (o : Blob.Opened) (body : Blob.Stream)
  | upload (u : Upload)

/-- The reply to a command. -/
def perform (b : Backend) : Command → Call Reply
  | .probe key => (fun _ => .done) <$> b.probe key
  | .head key => .head <$> b.head key
  | .list o => .listing <$> b.list o
  | .delete key => (fun _ => .done) <$> b.delete key
  | .deleteAll keys => (fun _ => .done) <$> b.deleteAll keys
  | .rename source destination => (fun _ => .done) <$> b.rename source destination
  | .copy source destination => (fun _ => .done) <$> copy source destination
  | .get key o => (fun (opened, body) => .opened opened body) <$> b.get key o
  | .put key body isDirectory => (fun _ => .done) <$> b.put key body isDirectory
  | .beginUpload key => .upload <$> b.beginUpload key
  | .addPart h body size => (fun _ => .done) <$> (addPart h body size).2
  | .commitUpload h => (fun _ => .done) <$> commitUpload h
  | .abortUpload h => (fun _ => .done) <$> abortUpload h
  | .expireUploads => (fun _ => .done) <$> expireUploads
  | .makeContainer => (fun _ => .done) <$> b.makeContainer
  | .removeContainer => (fun _ => .done) <$> b.removeContainer

/-- The handle of a command as the call leaves it, whatever becomes of the call. -/
def Command.handle? : Command → Option Handle
  | .addPart h body size => some (Backend.addPart h body size).1
  | .commitUpload h | .abortUpload h => some h
  | _ => none

end LakeStore.Backend

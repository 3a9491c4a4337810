import LakeStore.Error

/-!
Faults as entries, for consumers that branch on them: the name, number and category of every fault, and what
its kind carries beyond them. Faults of the surroundings carry no text.
-/

namespace LakeStore

/-- The name of what a temporary error was made of. -/
def Cause.name : Cause → String
  | .noResponse => "HttpRequestError"
  | .undecodable => "ValidationError"
  | .other name => name

namespace StoreError

/-- The entries that the kind of an error adds. -/
def particulars : StoreError → List (String × Value)
  | .final .. => []
  | .temporary _ _ _ cause => [("cause", .ofOption (fun c => .text c.name) cause)]
  | .remote f =>
    [("exception", .text f.exception), ("status_code", .int f.status), ("java_class_name", .text f.javaClass),
     ("request_id", .ofOption .text f.requestId), ("response_id", .ofOption .text f.responseId)]

/-- The entries that every error of the store has. -/
def report (e : StoreError) : List (String × Value) :=
  [("message", .text e.text), ("code", .text e.code), ("retryable", .bool e.retryable),
   ("key", e.key), ("raw_message", .text e.message), ("own_errno", .int e.kindErrno)]
    ++ e.particulars

end StoreError

namespace Fault

/-- What a fault carries beyond its name, number and category. -/
def particulars : Fault → List (String × Value)
  | .store e => e.report
  | .request e =>
    [("message", .text e.message), ("method", .text e.method), ("url", .text e.url),
     ("retryable", .bool e.retryable), ("cause", .ofOption .text e.cause)]
  | .handle type => [("message", .text (Fault.handle type).text)]
  | .foreign f => [("message", .text f.text)]
  | .invalid issues => [("details", .list (issues.map fun i => .table i.toEntries))]
  | .time _ | .closedClient | .closedBody | .url _ | .nowhere _ | .host _ | .field _ | .garbled _
  | .schemeless _ | .misfit _ | .unfinished => []

/-- A fault as entries. -/
def report (f : Fault) : List (String × Value) :=
  [("error", .text f.name), ("errno", f.errno), ("category", .text f.category.name)] ++ f.particulars

end Fault

end LakeStore

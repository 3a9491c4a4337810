import LakeStore.Error
import LakeStore.Json.Writer
import LakeStore.Log.Context
import LakeStore.Log.Template
import LakeStore.Time.Instant

/-!
Log records and the two ways to write them on a line: as a JSON object, and as text with pairs behind it.

Both carry the fields of a record: what was bound when it was written, and the fields that correlate it
with an exchange, which win over bound ones.
-/

namespace LakeStore.Log

/-- A record. Names and texts are whatever its writer gives for them. -/
structure Record where
  logger : Value
  level : Value
  template : Value
  args : Template.Arguments := .several []
  /-- Seconds since the start of 1970. -/
  created : Value
  /-- What was bound when the record was written: entries, or pairs of a name and a value. -/
  context : Value := .null
  /-- Further fields, of which only the correlating ones are written. -/
  extra : List (String × Value) := []
  /-- The failure that a record is about, in full. -/
  exception : Option String := none
  /-- The text to write for the failure instead. -/
  exceptionText : Value := .null
  /-- Where the record was written. -/
  stack : Value := .null

/-- Why a record cannot be written. -/
inductive RecordFault where
  | template (f : Template.TemplateFault)
  | time (f : TimeFault)
  /-- Something is not of the kind that it has to be. -/
  | kind
  /-- Something is of the right kind, but not of the right shape. -/
  | shape
  deriving DecidableEq, Repr

namespace Record

/-- The fields that correlate a record with an exchange. -/
def correlationNames : List String := ["remote_op", "remote_url", "request_id", "response_id", "status_code"]

/-- The correlating fields among some entries, apart from absent ones. -/
def correlation (extra : List (String × Value)) : List (String × Value) :=
  correlationNames.filterMap fun name =>
    match Entries.find? name extra with
    | none | some .null => none
    | some v => some (name, v)

/-- A name and its value. -/
def pair? : Value → Except RecordFault (String × Value)
  | .list [name, v] => .ok (name.display, v)
  | .text s =>
    match s.toList with
    | [name, v] => .ok (String.singleton name, .text (String.singleton v))
    | _ => .error .shape
  | .list _ => .error .shape
  | _ => .error .kind

/-- What was bound when a record was written. -/
def bound (r : Record) : Except RecordFault (List (String × Value)) :=
  if !r.context.isTruthy then .ok []
  else
    match r.context with
    | .table entries => .ok entries
    | .list items => (items.mapM pair?).map (Entries.putAll [])
    | .text s => ((s.toList.map fun c => Value.text (String.singleton c)).mapM pair?).map (Entries.putAll [])
    | _ => .error .kind

/-- The fields of a record. -/
def fields (r : Record) : Except RecordFault (List (String × Value)) :=
  r.bound.map fun bound => Entries.putAll bound (correlation r.extra)

/-- The message of a record. -/
def message (r : Record) : Except RecordFault String :=
  (Template.fill r.template.display r.args).mapError .template

/-- The number of seconds of a record. -/
def seconds (r : Record) : Except RecordFault Binary64 :=
  match r.created with
  | .int n => .ok (.ofInt n)
  | .bool b => .ok (.ofInt (if b then 1 else 0))
  | .real x => .ok x
  | _ => .error .kind

/-- The instant of a record. -/
def instant (r : Record) : Except RecordFault Instant := do (Instant.ofSeconds (← r.seconds)).mapError .time

/-- A record as an object: its own fields first, then the others, and the failure last. A field that comes
later replaces an earlier one of its name in place. -/
def payload (r : Record) : Except RecordFault (List (String × Value)) := do
  let core := [("timestamp", Value.text (← r.instant).iso), ("level", r.level), ("logger", r.logger),
    ("message", .text (← r.message))]
  let all := Entries.putAll core (← r.fields)
  return match r.exception with
    | some e => Entries.put "exception" (.text e) all
    | none => all

/-- A record as JSON. -/
def json (r : Record) : Except RecordFault String := r.payload.map fun p => Json.write (.table p)

/-- The second of a record, written out. Years are not padded. -/
def stamp (seconds : Int) : String :=
  let day := Date.ofDayNumber (seconds.fdiv 86400)
  toString day.year ++ "-" ++ Date.padded 2 day.month ++ "-" ++ Date.padded 2 day.day ++ "T"
    ++ Instant.clock (seconds.fmod 86400).toNat ++ "+0000"

/-- The whole seconds of a record. The year has to fit a word of 32 bits. -/
def second (r : Record) : Except RecordFault Int := do
  match (← r.seconds).toRat? with
  | none => throw (.time .notANumber)
  | some q =>
    let year ← (Instant.yearOf q.floor).mapError .time
    if (twoTo 31 : Int) ≤ year then throw (.time .seconds)
    return q.floor

/-- Fields as pairs, by name. -/
def pairs (fields : List (String × Value)) : String :=
  let sorted := fields.mergeSort fun a b => decide (¬ b.1 < a.1)
  Text.join " " (sorted.map fun f => f.1 ++ "=" ++ f.2.display)

/-- A line with more lines behind it, if there are any. -/
def continued (line : String) (more : Value) : Except RecordFault String :=
  match more with
  | .text more =>
    if more = "" then .ok line
    else if line.toList.getLast? = some '\n' then .ok (line ++ more)
    else .ok (line ++ "\n" ++ more)
  | more => if more.isTruthy then .error .kind else .ok line

/-- A record as text: the line, the failure and the place it was written at, and the fields. -/
def plain (r : Record) : Except RecordFault String := do
  let message ← r.message
  let line := stamp (← r.second) ++ " " ++ r.level.display ++ " " ++ r.logger.display ++ " " ++ message
  let failure := if r.exceptionText.isTruthy then r.exceptionText else .ofOption .text r.exception
  let line ← continued (← continued line failure) r.stack
  let fields ← r.fields
  return if fields = [] then line else line ++ " " ++ pairs fields

/-- A record in which a further field of one of its own names takes the place of what it has itself. -/
def overridden (r : Record) : Except RecordFault Record := do
  let given (name : String) (own : Value) : Value := (Entries.find? name r.extra).getD own
  let exception ← match Entries.find? "exc_info" r.extra with
    | some v => if v.isTruthy then throw .kind else pure none
    | none => pure r.exception
  let args := match Entries.find? "args" r.extra with
    | some v => .single v
    | none => r.args
  return { r with
    logger := given "name" r.logger, level := given "levelname" r.level, template := given "msg" r.template
    args, created := given "created" r.created, context := given "context" r.context, exception
    exceptionText := given "exc_text" r.exceptionText, stack := given "stack_info" r.stack }

end Record

/-- The two ways to write a record. -/
inductive Format where
  | json
  | plain
  deriving DecidableEq, Repr

/-- The line of a record. -/
def Format.line : Format → Record → Except RecordFault String
  | .json, r => r.json
  | .plain, r => r.plain

end LakeStore.Log

import LakeStore.Log.Note
import LakeStore.Log.Record
import LakeStore.Log.Settings
import LakeStore.Text.Case

/-!
Where records go: a process writes them to one place, from some level on, with what is bound.

Setting logging up replaces the place before the level is looked at, so that an unknown level leaves the
place replaced and the rest as it was.
-/

namespace LakeStore.Log

/-- The threshold of a name in any case: the level from which on records are let through, or none if all
are. -/
def threshold? (name : String) : Option (Option Level) := Level.ofName? (Text.upper name)

/-- The place where records go. -/
inductive Place where
  /-- Nothing is written. -/
  | silent
  | output (format : Format)
  deriving DecidableEq, Repr

/-- The state of logging in a process. -/
structure Setup where
  place : Place := .silent
  threshold : Option Level := some .warning
  context : Context := []
  deriving DecidableEq, Repr

namespace Setup

/-- The name of the threshold. -/
def thresholdName (s : Setup) : String := Level.nameOf s.threshold

/-- A text to bind; the empty one is absent. -/
def bindable : Option String → Value
  | none | some "" => .null
  | some t => .text t

/-- Sets logging up. The flag tells whether the level is known. -/
def configure (s : Setup) (settings : Settings) : Bool × Setup :=
  let s := { s with place := .output (if settings.json then .json else .plain) }
  match threshold? settings.level with
  | none => (false, s)
  | some threshold =>
    (true, { s with
      threshold
      context := s.context.bind
        [("service", bindable settings.service), ("environment", bindable settings.environment)] })

/-- Binds values, of which a name has only the last. -/
def bind (s : Setup) (values : List (String × Value)) : Setup :=
  { s with context := s.context.bind (Entries.putAll [] values) }

/-- Whether records of a level are written. -/
def lets (s : Setup) (level : Option Level) : Bool := Level.rankOf s.threshold ≤ Level.rankOf level

/-- The names that a record has for itself. -/
def reservedNames : List String :=
  ["message", "asctime", "name", "msg", "args", "levelname", "levelno", "pathname", "filename", "module",
   "exc_info", "exc_text", "stack_info", "lineno", "funcName", "created", "msecs",
   "relativeCreated", "thread", "threadName", "processName", "process", "taskName"]

/-- Whether a record of a level is refused because a further field goes by one of its own names. -/
def refuses (s : Setup) (level : Option Level) (extra : List (String × Value)) : Bool :=
  s.lets level && extra.any fun e => reservedNames.contains e.1

/-- What a record adds to the output. A record that cannot be written adds nothing. -/
def written (s : Setup) (level : Option Level) (r : Record) : String :=
  match s.place with
  | .silent => ""
  | .output format =>
    if s.lets level then
      match format.line
          { r with level := .text (Level.nameOf level), context := .table s.context.entries } with
      | .ok line => line ++ "\n"
      | .error _ => ""
    else ""

end Setup

end LakeStore.Log

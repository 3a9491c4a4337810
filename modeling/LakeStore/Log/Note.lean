import LakeStore.Value

/-!
What the store writes to its logs: a level, a message, and named fields.
-/

namespace LakeStore.Log

/-- How severe a record is. -/
inductive Level where
  | debug
  | info
  | warning
  | error
  | critical
  deriving DecidableEq, Repr

namespace Level

/-- The name of a level. -/
def name : Level → String
  | .debug => "DEBUG"
  | .info => "INFO"
  | .warning => "WARNING"
  | .error => "ERROR"
  | .critical => "CRITICAL"

/-- The rank of a level; more severe levels have greater ones. -/
def rank : Level → Nat
  | .debug => 10
  | .info => 20
  | .warning => 30
  | .error => 40
  | .critical => 50

/-- Every level. -/
def all : List Level := [.debug, .info, .warning, .error, .critical]

/-- The names that levels go by; the last stands for none, which is below all. -/
def names : List (String × Option Level) :=
  [("CRITICAL", some .critical), ("FATAL", some .critical), ("ERROR", some .error), ("WARN", some .warning),
   ("WARNING", some .warning), ("INFO", some .info), ("DEBUG", some .debug), ("NOTSET", none)]

/-- The level of a name, or of none. -/
def ofName? (s : String) : Option (Option Level) := names.lookup s

/-- The name of a level or of none. -/
def nameOf (l : Option Level) : String := (l.map name).getD "NOTSET"

/-- The rank of a level or of none. -/
def rankOf (l : Option Level) : Nat := (l.map rank).getD 0

/-- The name under which the level of a name is written; a name of no level is written as it is. -/
def written (s : String) : String := ((ofName? s).map nameOf).getD s

end Level

/-- The part of the store that writes a record. -/
inductive Source where
  | backend
  | classifier
  | listing
  | multipart
  | transport
  deriving DecidableEq, Repr

/-- A record that the store writes. Fields that are null are left out where records are shown. -/
structure Note where
  source : Source
  level : Level
  message : String
  fields : List (String × Value) := []
  /-- Further fields, which are not shown. -/
  extra : List (String × Value) := []
  deriving Repr

end LakeStore.Log

import LakeStore.Lax

/-!
How logging is to be set up: the least level, the form of the lines, and what is bound for the process.
-/

namespace LakeStore.Log

/-- The settings of logging. -/
structure Settings where
  level : String := "INFO"
  json : Bool := true
  service : Option String := none
  environment : Option String := none
  deriving DecidableEq, Repr

namespace Settings

/-- The levels that a configuration may name. -/
def levels : List String := ["DEBUG", "INFO", "WARNING", "ERROR", "CRITICAL"]

/-- Settings from entries; entries that are not known are passed over. -/
def ofEntries (entries : List (String × Value)) : Checked Settings :=
  Checked.pure Settings.mk
    |>.apply (Lax.field entries "level" (some "INFO") (Lax.oneOf levels))
    |>.apply (Lax.field entries "json_output" (some true) Lax.bool)
    |>.apply (Lax.field entries "service" (some (some "lakeblob")) fun v => (Lax.text v).map some)
    |>.apply (Lax.field entries "environment" (some (some "dev")) fun v => (Lax.text v).map some)

/-- The entries of the settings. -/
def toEntries (s : Settings) : List (String × Value) :=
  [("level", .text s.level), ("json_output", .bool s.json), ("service", .ofOption .text s.service),
   ("environment", .ofOption .text s.environment)]

end Settings

end LakeStore.Log

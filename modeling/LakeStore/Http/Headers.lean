import LakeStore.Entries
import LakeStore.Text.Encoding
import LakeStore.Text.Trim

/-!
Header fields of HTTP messages: names with values, in order. The case of a name does not matter, and a
name may occur more than once.
-/

namespace LakeStore.Http

/-- The fields of a message. -/
abbrev Headers := List (String × String)

namespace Headers

/-- Demands that fields can be written: in names and values there is ASCII only. -/
def check (h : Headers) : Except Text.Unencodable Unit :=
  h.forM fun f => do
    let _ ← Text.ascii f.1
    let _ ← Text.ascii f.2

/-- Whether two names are the same, whatever their case. -/
def sameName (a b : String) : Bool := Text.lowerAscii a == Text.lowerAscii b

/-- The values under a name, in order. -/
def values (name : String) (h : Headers) : List String :=
  (h.filter fun f => sameName f.1 name).map Prod.snd

/-- Whether a name occurs. -/
def has (name : String) (h : Headers) : Bool := h.any fun f => sameName f.1 name

/-- The value of a field; one that occurs several times has all values with a comma between them. -/
def get? (name : String) (h : Headers) : Option String :=
  if h.has name then some (Text.join ", " (h.values name)) else none

/-- Fields in which those of `more` replace the ones of the same names. -/
def replace (h more : Headers) : Headers := (h.filter fun f => !has f.1 more) ++ more

/-- Fields with one more, unless its name occurs already. -/
def default (name value : String) (h : Headers) : Headers := if h.has name then h else h ++ [(name, value)]

/-- One value per name in lower case: that of the last field of the name. -/
def flatten (h : Headers) : List (String × String) :=
  Entries.putAll [] (h.map fun f => (Text.lowerAscii f.1, f.2))

end Headers

end LakeStore.Http

import LakeStore.Text.Blank
import LakeStore.Value

/-!
Where the source of something could not be read: a file, a line, and a stretch of that line.

Whoever reports such a spot may leave out any part of it. In a sentence a spot is its file and line; an
excerpt shows the line itself, with the stretch marked below it.
-/

namespace LakeStore

/-- A spot in a source, with what is wrong there. -/
structure Spot where
  message : Value := .null
  file : Value := .null
  line : Value := .null
  /-- Where the stretch begins, counted from one. -/
  column : Value := .null
  source : Value := .null
  /-- Where the stretch ends. -/
  endColumn : Value := .null
  deriving DecidableEq, Repr

namespace Spot

/-- The name of a file apart from where it lies. -/
def fileName (path : String) : String := String.ofList (path.toList.reverse.takeWhile (· != '/')).reverse

/-- The greatest number of a line that a sentence spells out. -/
def lastLine : Int := twoTo 63 - 1

/-- The number of a line in a sentence. -/
def lineText (n : Int) : String := if -lastLine ≤ n ∧ n ≤ lastLine then toString n else "-1"

/-- A spot in a sentence. -/
def text (s : Spot) : String :=
  s.message.display
    ++ (match s.file, s.line with
      | .text file, .int line => " (" ++ fileName file ++ ", line " ++ lineText line ++ ")"
      | .text file, _ => " (" ++ fileName file ++ ")"
      | _, .int line => " (line " ++ lineText line ++ ")"
      | _, _ => "")

/-- The marks below a line, of which `indent` leading characters are not shown. Blanks of the line are kept,
so that the marks stand below what they mark. -/
def marks (s : Spot) (indent : Nat) (line : List Char) : List String :=
  match s.column with
  | .int column =>
    let stop := match s.endColumn with
      | .int n => if n = 0 ∨ n = column ∨ n = -1 then column + 1 else n
      | _ => column + 1
    let start := column - 1 - indent
    if start < 0 then []
    else
      let lead := (line.take start.toNat).map fun c => if Text.isBlank c then c else ' '
      [String.ofList ("    ".toList ++ lead ++ List.replicate (stop - column).toNat '^')]
  | _ => []

/-- The line that a spot lies on, without its indentation, and the marks below it. -/
def shownLine (s : Spot) : List String :=
  match s.source with
  | .text source =>
    let whole := Text.dropTail (· = '\n') source.toList
    let line := whole.dropWhile fun c => c = ' ' || c = '\n' || c = '\x0c'
    ("    " ++ String.ofList line) :: s.marks (whole.length - line.length) line
  | _ => []

/-- A spot in full, under the name of the failure that it belongs to. -/
def excerpt (name : String) (s : Spot) : String :=
  let file := if s.file.isTruthy then s.file.display else "<string>"
  let (place, suffix) := match s.line, s.file with
    | .null, .null => ([], "")
    | .null, file => ([], " (" ++ file.display ++ ")")
    | line, _ => (["  File \"" ++ file ++ "\", line " ++ line.display], "")
  let message := if s.message.isTruthy then s.message.display else "<no detail available>"
  Text.join "\n" (place ++ s.shownLine ++ [name ++ ": " ++ message ++ suffix])

end Spot

end LakeStore

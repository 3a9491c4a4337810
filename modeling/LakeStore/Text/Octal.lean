import LakeStore.Text.Numeral
import LakeStore.Text.Quoted

/-!
Octal numerals, as permission bits are written in configuration files.

A numeral may have a sign, the mark `0o` of the base, and single underscores between digits or after the
mark. The digits may be those of any script.
-/

namespace LakeStore.Text.Octal

/-- The longest quotation in a message. -/
def greatestQuotation : Nat := 200

/-- The integer that a numeral spells, outer blanks aside, or what is wrong with it. -/
def read (s : String) : Except String Int :=
  let body := strip s
  match Numeral.integer? 8 body with
  | some n => .ok n
  | none =>
    .error ("invalid literal for int() with base 8: "
      ++ String.ofList ((quoted body).toList.take greatestQuotation))

end LakeStore.Text.Octal

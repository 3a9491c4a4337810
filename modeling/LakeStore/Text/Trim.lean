/-!
Cutting texts: leading and trailing runs, the first occurrence of a mark, and the pieces between marks.

All of it is done on the list of characters, so that the lemmas of `List.dropWhile` and its kin apply.
-/

namespace LakeStore.Text

/-- The characters left after the trailing run of those that satisfy `p`. -/
def dropTail (p : Char → Bool) (cs : List Char) : List Char := (cs.reverse.dropWhile p).reverse

/-- `s` without its leading characters that satisfy `p`. -/
def trimStart (p : Char → Bool) (s : String) : String := String.ofList (s.toList.dropWhile p)

/-- `s` without its trailing characters that satisfy `p`. -/
def trimEnd (p : Char → Bool) (s : String) : String := String.ofList (dropTail p s.toList)

/-- `s` without its outer characters that satisfy `p`. -/
def trim (p : Char → Bool) (s : String) : String := trimEnd p (trimStart p s)

/-- What stands before the first `mark`, and what after it if there is one. -/
def cutAt (mark : Char) : List Char → List Char × Option (List Char)
  | [] => ([], none)
  | c :: rest =>
    if c = mark then ([], some rest)
    else ((c :: (cutAt mark rest).1), (cutAt mark rest).2)

/-- Before and after the first `mark`; the second part is empty when there is none. -/
def cut (mark : Char) (s : String) : String × String :=
  let parts := cutAt mark s.toList
  (String.ofList parts.1, String.ofList (parts.2.getD []))

/-- What follows `lead`, if `s` starts with it. -/
def after? (lead s : String) : Option String :=
  (List.isPrefixOf? lead.toList s.toList).map String.ofList

/-- The pieces of `cs` between the occurrences of the non-empty text `mark`. -/
def pieces (mark : List Char) : List Char → List (List Char)
  | cs => go 0 [] cs
where
  /-- `skip` counts the characters of an occurrence still to pass over. -/
  go (skip : Nat) (piece : List Char) : List Char → List (List Char)
    | [] => [piece.reverse]
    | c :: rest =>
      match skip with
      | skip + 1 => go skip piece rest
      | 0 =>
        if mark.isPrefixOf (c :: rest) then piece.reverse :: go (mark.length - 1) [] rest
        else go 0 (c :: piece) rest

/-- The lowercase of an ASCII letter, and any other character itself. -/
def lowerAscii (s : String) : String := String.ofList (s.toList.map Char.toLower)

/-- The uppercase of an ASCII letter, and any other character itself. -/
def upperAscii (s : String) : String := String.ofList (s.toList.map Char.toUpper)

/-- Texts joined with `mark` between them. -/
def join (mark : String) (parts : List String) : String := String.join (parts.intersperse mark)

end LakeStore.Text

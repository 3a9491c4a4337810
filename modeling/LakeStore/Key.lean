import LakeStore.Text.Trim

/-!
Keys of objects and the remote paths they stand for.

A key is a text of segments with a delimiter between them. Where it maps to on the remote does not depend
on its leading delimiters, how deep it lies does not depend on its trailing ones. Directories can only be
deleted when they are empty, so a batch is deleted deepest key first.
-/

namespace LakeStore.Key

/-- The delimiter between segments. -/
def delimiter : Char := '/'

/-- Whether a character is the delimiter. -/
def isDelimiter (c : Char) : Bool := c = delimiter

/-- Two parts with one delimiter between them. -/
def glue (parent child : String) : String := parent ++ "/" ++ child

/-- A key without its trailing delimiters. -/
def stem (key : String) : String := Text.trimEnd isDelimiter key

/-- Whether a key ends with the delimiter, so that it can only name a directory. -/
def namesDirectory (key : String) : Bool := key.toList.getLast? == some delimiter

/-- The key of a directory's placeholder. -/
def placeholder (key : String) : String := key ++ "/"

/-- The remote path of a key below a bucket. The empty key is the bucket itself, and below no bucket the
trimmed key is the path. -/
def remotePath (bucket key : String) : String :=
  let key := Text.trimStart isDelimiter key
  if bucket = "" then key
  else if key = "" then bucket
  else glue bucket key

/-- The number of segments of a key. -/
def depth (key : String) : Nat := (stem key).toList.countP isDelimiter + 1

/-- The key of a listed child; a child of the root goes by its own name. -/
def child (parent name : String) : String := if parent = "" then name else glue parent name

/-- Whether a key is deleted no later than another: the deeper one goes first, and of two equally deep
ones the first in the order of code points. -/
def deletedBy (a b : String) : Bool :=
  if depth a = depth b then decide (¬ b < a) else depth b < depth a

/-- The keys of a batch in the order in which they are deleted. -/
def deletionOrder (keys : List String) : List String := keys.mergeSort deletedBy

end LakeStore.Key

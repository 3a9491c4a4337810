import LakeStore.Lax

/-!
The records that a blob store answers with: its abilities, the rows of a listing, and the metadata of one
object.

Each record can be written as entries and read from them. Its fields are read leniently, but no entry may
be left over.
-/

namespace LakeStore.Blob

/-- What a consumer needs to know to adapt to a backend. -/
structure Capabilities where
  noParallelMultipart : Bool := false
  directoriesAreBlobs : Bool := false
  name : String
  deriving DecidableEq, Repr

/-- A row of a listing: an object, or the placeholder of a directory. -/
structure Item where
  key : String
  size : Int := 0
  lastModified : Option Moment := none
  deriving DecidableEq, Repr

/-- A row of a listing: a virtual directory with its trailing delimiter. -/
structure Folder where
  path : String
  deriving DecidableEq, Repr

/-- The rows of a listing. -/
structure Listing where
  folders : List Folder := []
  items : List Item := []
  truncated : Bool := false
  deriving DecidableEq, Repr

/-- The metadata of an object or directory. -/
structure Head where
  key : String
  size : Int
  lastModified : Option Moment := none
  isDirectory : Bool := false
  deriving DecidableEq, Repr

namespace Capabilities

/-- Abilities from entries. -/
def ofEntries (entries : List (String × Value)) : Checked Capabilities :=
  (Checked.pure Capabilities.mk
    |>.apply (Lax.field entries "no_parallel_multipart" (some false) Lax.bool)
    |>.apply (Lax.field entries "directories_are_blobs" (some false) Lax.bool)
    |>.apply (Lax.field entries "name" none Lax.text))
    |>.also (Lax.undeclared entries ["no_parallel_multipart", "directories_are_blobs", "name"])

/-- The entries of abilities. -/
def toEntries (c : Capabilities) : List (String × Value) :=
  [("no_parallel_multipart", .bool c.noParallelMultipart),
   ("directories_are_blobs", .bool c.directoriesAreBlobs), ("name", .text c.name)]

end Capabilities

namespace Item

/-- A row from entries. -/
def ofEntries (entries : List (String × Value)) : Checked Item :=
  (Checked.pure Item.mk
    |>.apply (Lax.field entries "key" none Lax.text)
    |>.apply (Lax.field entries "size" (some 0) Lax.int)
    |>.apply (Lax.field entries "last_modified" (some none) (Lax.optional Lax.moment)))
    |>.also (Lax.undeclared entries ["key", "size", "last_modified"])

/-- The entries of a row. -/
def toEntries (i : Item) : List (String × Value) :=
  [("key", .text i.key), ("size", .int i.size), ("last_modified", .ofOption .moment i.lastModified)]

end Item

namespace Folder

/-- A row from entries. -/
def ofEntries (entries : List (String × Value)) : Checked Folder :=
  (Checked.pure Folder.mk
    |>.apply (Lax.field entries "prefix" none Lax.text))
    |>.also (Lax.undeclared entries ["prefix"])

/-- The entries of a row. -/
def toEntries (f : Folder) : List (String × Value) := [("prefix", .text f.path)]

end Folder

namespace Listing

/-- Rows from entries. -/
def ofEntries (entries : List (String × Value)) : Checked Listing :=
  (Checked.pure Listing.mk
    |>.apply (Lax.field entries "prefixes" (some []) (Lax.each .notSequence (Lax.record Folder.ofEntries)))
    |>.apply (Lax.field entries "items" (some []) (Lax.each .notSequence (Lax.record Item.ofEntries)))
    |>.apply (Lax.field entries "truncated" (some false) Lax.bool))
    |>.also (Lax.undeclared entries ["prefixes", "items", "truncated"])

/-- The entries of the rows alone. -/
def rows (l : Listing) : List (String × Value) :=
  [("prefixes", .list (l.folders.map fun f => .table f.toEntries)),
   ("items", .list (l.items.map fun i => .table i.toEntries))]

/-- The entries of rows. -/
def toEntries (l : Listing) : List (String × Value) := l.rows ++ [("truncated", .bool l.truncated)]

end Listing

namespace Head

/-- Metadata from entries. -/
def ofEntries (entries : List (String × Value)) : Checked Head :=
  (Checked.pure Head.mk
    |>.apply (Lax.field entries "key" none Lax.text)
    |>.apply (Lax.field entries "size" none Lax.int)
    |>.apply (Lax.field entries "last_modified" (some none) (Lax.optional Lax.moment))
    |>.apply (Lax.field entries "is_directory" (some false) Lax.bool))
    |>.also (Lax.undeclared entries ["key", "size", "last_modified", "is_directory"])

/-- The entries of metadata. -/
def toEntries (h : Head) : List (String × Value) :=
  [("key", .text h.key), ("size", .int h.size), ("last_modified", .ofOption .moment h.lastModified),
   ("is_directory", .bool h.isDirectory)]

end Head

/-- The metadata of an open object, apart from its body. -/
structure Opened where
  key : String
  contentType : Option String := none
  isDirectory : Bool := false
  deriving DecidableEq, Repr

namespace Opened

/-- Metadata from entries. No value that can be written down is a body. -/
def ofEntries (entries : List (String × Value)) : Checked Opened :=
  (Checked.pure (fun key (_ : Unit) contentType isDirectory => Opened.mk key contentType isDirectory)
    |>.apply (Lax.field entries "key" none Lax.text)
    |>.apply (Lax.field entries "body" none fun _ => .flaw .notStream)
    |>.apply (Lax.field entries "content_type" (some none) (Lax.optional Lax.text))
    |>.apply (Lax.field entries "is_directory" (some false) Lax.bool))
    |>.also (Lax.undeclared entries ["key", "body", "content_type", "is_directory"])

/-- The entries of metadata. -/
def toEntries (o : Opened) : List (String × Value) :=
  [("key", .text o.key), ("content_type", .ofOption .text o.contentType),
    ("is_directory", .bool o.isDirectory)]

end Opened

end LakeStore.Blob

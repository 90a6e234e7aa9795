import InventoryQuery.RawText

/-!
# Paths of files

A path as the names on the way to a file. A single dot stands for the place that is reached and is
left out; two dots stand for the directory above it. A path that ends in a slash or a single dot
can only be that of a directory, and one that ends in a dot only that of one that exists. Names are
raw texts, for the system does not ask what they mean.
-/

namespace InventoryQuery.Files

/-- What follows the last name of a path. -/
inductive Ending where
  | nothing
  | slash
  | dot
  deriving DecidableEq, Repr

/-- A path: where it starts, the names on the way, and what follows the last of them. -/
structure Path where
  absolute : Bool
  names : List RawText
  ending : Ending := .nothing
  deriving DecidableEq, Repr

namespace Path

/-- The byte between the names of a path, with which an absolute path starts. -/
def slash : UInt8 := '/'.toUInt8

/-- The name of the place that is reached. -/
def dot : List UInt8 := ['.'.toUInt8]

/-- What follows the last name among the parts of a path. -/
def endingOf (parts : List (List UInt8)) : Ending :=
  if (parts.filter (· ≠ [])).getLast? = some dot then .dot
  else if parts.getLast? = some [] && parts.length > 1 then .slash
  else .nothing

/-- The path that a raw text names. -/
def ofRaw (raw : RawText) : Path :=
  let parts := raw.bytes.splitOn slash
  { absolute := raw.bytes.head? = some slash
    names := (parts.filter fun part => part ≠ [] && part ≠ dot).map RawText.mk
    ending := endingOf parts }

/-- Whether a path can only be that of a directory. -/
def isDirectory (path : Path) : Bool := path.ending ≠ .nothing

/-- Whether the path does not lead anywhere. -/
def isEmpty (path : Path) : Bool := !path.absolute && path.names.isEmpty && !path.isDirectory

/-- The path of the directory that holds what a path names; there is none for the root and for the
empty path. -/
def parent? (path : Path) : Option Path :=
  if path.names.isEmpty then none else some ⟨path.absolute, path.names.dropLast, .nothing⟩

/-- The raw text of a path with a relative one behind it. -/
def append (base relative : RawText) : RawText :=
  if base.isEmpty then relative
  else if base.bytes.getLast? = some slash then ⟨base.bytes ++ relative.bytes⟩
  else ⟨base.bytes ++ slash :: relative.bytes⟩

end Path

end InventoryQuery.Files

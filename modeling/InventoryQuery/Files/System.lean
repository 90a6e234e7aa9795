import InventoryQuery.Files.Error
import InventoryQuery.Files.Path

/-!
# Files and directories

The state of a file system as a finite map from places to files and directories, and the
operations that a program has on it. A place is the list of names from the root; the root is
always a directory. An operation that fails leaves every file as it was, with one exception: to
write a file is to open it, which empties it, and then to fill it as far as there is room.
-/

namespace InventoryQuery.Files

/-- What stands at a place. -/
inductive Entry where
  | file (content : ByteArray)
  | directory

/-- Whether a directory stands at a place. -/
def Entry.isDirectory : Entry → Bool
  | .directory => true
  | .file _ => false

/-- The names from the root to a file or directory. -/
abbrev Place := List RawText

/-- Under which conditions a program uses files. -/
structure Conditions where
  /-- The place where relative paths start. -/
  workingDirectory : Place := []
  /-- The places that may not be changed: a directory there takes in no new name, and a file there
  no new content. -/
  isSealed : Place → Bool := fun _ => false
  /-- How many bytes a file at a place can hold, where there is a limit. -/
  room? : Place → Option Nat := fun _ => none

/-- The files and directories, and the conditions under which they are used. -/
structure System extends Conditions where
  entries : List (Place × Entry) := []

namespace System

/-- What stands at a place. -/
def entry? (system : System) (place : Place) : Option Entry :=
  if place = [] then some .directory
  else (system.entries.find? (fun pair => pair.1 = place)).map Prod.snd

/-- The system with something put at a place. -/
def put (system : System) (place : Place) (entry : Entry) : System :=
  { system with
    entries := (place, entry) :: system.entries.filter (fun pair => pair.1 ≠ place) }

/-- The length that a name may have, in bytes. -/
def maxNameLength : Nat := 255

/-- Require that a directory stands at a place. -/
def requireDirectory (system : System) (place : Place) : Except Error Unit :=
  match system.entry? place with
  | some .directory => .ok ()
  | some (.file _) => .error .notADirectory
  | none => .error .notFound

/-- The name that leads to the directory above. -/
def above : RawText := ".."

/-- The place that one name leads to from a place. -/
def step (place : Place) (name : RawText) : Place :=
  if name = above then place.dropLast else place ++ [name]

/-- The place that some names lead to from a place. Whatever is passed on the way has to be a
directory. -/
def walk (system : System) (place : Place) : List RawText → Except Error Place
  | [] => .ok place
  | name :: names =>
    match system.requireDirectory place with
    | .error e => .error e
    | .ok () =>
      if name.bytes.length > maxNameLength then .error .nameTooLong
      else walk system (step place name) names

/-- Whether a name holds a byte that no name can hold. -/
def holdsNul (path : Path) : Bool := path.names.any (fun name => name.bytes.contains 0)

/-- The place where a path starts. -/
def start (system : System) (path : Path) : Place :=
  if path.absolute then [] else system.workingDirectory

/-- The system with something put where a path leads to, and directories on the way there. -/
def putAlong (system : System) (path : Path) (entry : Entry) : System :=
  let rec along (system : System) (place : Place) : List RawText → System
    | [] => system.put place entry
    | name :: names => along (system.put place .directory) (step place name) names
  along system (system.start path) path.names

/-- The place that a path leads to, whether or not anything stands there. -/
def resolve (system : System) (path : Path) : Except Error Place :=
  if holdsNul path then .error .nulInName
  else if path.isEmpty then .error .notFound
  else system.walk (system.start path) path.names

/-- What stands where a path leads to, and its place. -/
def lookup (system : System) (path : Path) : Except Error (Place × Entry) :=
  match system.resolve path with
  | .error e => .error e
  | .ok place =>
    match system.entry? place with
    | none => .error .notFound
    | some entry =>
      if path.isDirectory && !entry.isDirectory then .error .notADirectory else .ok (place, entry)

/-- Whether anything stands where a path leads to. -/
def «exists» (system : System) (path : Path) : Bool :=
  match system.lookup path with
  | .ok _ => true
  | .error _ => false

/-- Whether a directory stands where a path leads to. -/
def isDirectory (system : System) (path : Path) : Bool :=
  match system.lookup path with
  | .ok (_, .directory) => true
  | _ => false

/-- The content of a file. -/
def readBytes (system : System) (path : Path) : Except Error ByteArray :=
  match system.lookup path with
  | .error e => .error e
  | .ok (_, .directory) => .error .isADirectory
  | .ok (_, .file content) => .ok content

/-- The content of a file that has to be text. -/
def readText (system : System) (path : Path) : Except Error String :=
  match system.readBytes path with
  | .error e => .error e
  | .ok content =>
    match String.fromUTF8? content with
    | some text => .ok text
    | none => .error .notText

/-- Require that the directory that holds a place takes in a new name. -/
def requireOpenParent (system : System) (place : Place) : Except Error Unit :=
  if system.isSealed place.dropLast then .error .permissionDenied else .ok ()

/-- Make a directory in one that exists. -/
def createDirectory (system : System) (path : Path) : Except Error System :=
  match system.resolve path with
  | .error e => .error e
  | .ok place =>
    if path.names.getLast? = some above then .error .alreadyExists
    else
      match system.entry? place with
      | some _ => .error .alreadyExists
      | none => (system.requireOpenParent place).map fun _ => system.put place .directory

/-- Make a directory, where it may already exist. -/
def ensureDirectory (system : System) (path : Path) : System × Except Error Unit :=
  match system.createDirectory path with
  | .ok system => (system, .ok ())
  | .error e => (system, if system.isDirectory path then .ok () else .error e)

/-- Make a directory and the missing ones above it. `depth` is the number of names on the way. -/
def createDirectoriesAbove (system : System) (path : Path) : Nat → System × Except Error Unit
  | 0 => (system, .ok ())
  | depth + 1 =>
    match system.createDirectory path with
    | .ok system => (system, .ok ())
    | .error .notFound =>
      match path.parent? with
      | none => (system, .error .notFound)
      | some parent =>
        match createDirectoriesAbove system parent depth with
        | (system, .error e) => (system, .error e)
        | (system, .ok ()) => system.ensureDirectory path
    | .error e => (system, if system.isDirectory path then .ok () else .error e)

/-- Make a directory and the missing ones above it. -/
def createDirectories (system : System) (path : Path) : System × Except Error Unit :=
  system.createDirectoriesAbove path path.names.length

/-- Make the directories above what a path leads to. -/
def makeParent (system : System) (path : Path) : System × Except Error Unit :=
  match path.parent? with
  | none => (system, .ok ())
  | some parent => system.createDirectories parent

/-- The place of the file that a path leads to, if it may be written. It need not exist, but the
directory that holds it has to. -/
def writePlace (system : System) (path : Path) : Except Error Place :=
  match system.resolve path with
  | .error e => .error e
  | .ok place =>
    match system.entry? place with
    | some .directory => .error .isADirectory
    | some (.file _) =>
      if path.isDirectory then .error .notADirectory
      else if system.isSealed place then .error .permissionDenied
      else .ok place
    | none =>
      match path.ending with
      | .nothing => (system.requireOpenParent place).map fun _ => place
      | .slash => .error .isADirectory
      | .dot => .error .notFound

/-- Put a file with some content at a place. Where there is no room for all of it, the file is left
with the beginning. -/
def fill (system : System) (place : Place) (content : ByteArray) : System × Except Error Unit :=
  match (system.room? place).filter (· < content.size) with
  | none => (system.put place (.file content), .ok ())
  | some room => (system.put place (.file (content.extract 0 room)), .error .noSpace)

/-- Write a file. -/
def writeFile (system : System) (path : Path) (content : ByteArray) : System × Except Error Unit :=
  match system.writePlace path with
  | .error e => (system, .error e)
  | .ok place => system.fill place content

/-- Write a file, making the directories above it first. -/
def store (system : System) (path : Path) (content : ByteArray) : System × Except Error Unit :=
  match system.makeParent path with
  | (system, .error e) => (system, .error e)
  | (system, .ok ()) => system.writeFile path content

end System

end InventoryQuery.Files

import InventoryQuery.Url.Basic
import InventoryQuery.Url.Encoding

/-!
# Paths

How the segments of a path are read after what is already there. A segment of one dot adds
nothing, and one of two dots removes the segment before it; a dot may be percent-encoded. In a
file URL the letter of a drive at the start of a path stays.
-/

namespace InventoryQuery.Url

/-- Whether a character separates segments. -/
def Kind.isSlash (kind : Kind) (c : Char) : Bool := c == '/' || (c == '\\' && kind.isSpecial)

/-- A text with every percent-encoded dot decoded. -/
def decodeDots : List Char → List Char
  | '%' :: '2' :: 'e' :: rest => '.' :: decodeDots rest
  | '%' :: '2' :: 'E' :: rest => '.' :: decodeDots rest
  | c :: rest => c :: decodeDots rest
  | [] => []

/-- Whether a segment stands for its place. -/
def isSingleDot (segment : List Char) : Bool := decodeDots segment == ['.']

/-- Whether a segment stands for the place above its own. -/
def isDoubleDot (segment : List Char) : Bool := decodeDots segment == ['.', '.']

/-- Whether a segment is a letter with a colon or a bar behind it. -/
def isDriveLetter : List Char → Bool
  | [letter, mark] => letter.isAlpha && (mark == ':' || mark == '|')
  | _ => false

/-- Whether a segment is a letter with a colon behind it. -/
def isPlainDriveLetter : List Char → Bool
  | [letter, mark] => letter.isAlpha && mark == ':'
  | _ => false

/-- Whether a text starts with a segment that is the letter of a drive. -/
def startsWithDriveLetter : List Char → Bool
  | letter :: mark :: rest =>
    isDriveLetter [letter, mark] &&
      match rest with
      | [] => true
      | c :: _ => c == '/' || c == '\\' || c == '?' || c == '#'
  | _ => false

/-- The last segment of a path. -/
def lastSegment (path : List Char) : List Char :=
  (path.reverse.takeWhile (· != '/')).reverse

/-- The path up to and including its last slash. -/
def throughLastSlash (path : List Char) : List Char :=
  (path.reverse.dropWhile (· != '/')).reverse

/-- The path without its last segment. The letter of a drive stays. -/
def popSegment (kind : Kind) (path : List Char) : List Char :=
  if kind = .file && isPlainDriveLetter (lastSegment path) then path else throughLastSlash path

/-- Whether the slash at the end of a path may go when the segment before it does. -/
def lastSlashIsRemovable (path : List Char) : Bool :=
  path.getLast? == some '/' && path.dropLast.contains '/' &&
    !startsWithDriveLetter (lastSegment path.dropLast ++ ['/'])

/-- The path with a slash at its end. -/
def withFinalSlash (path : List Char) : List Char :=
  if path.getLast? = some '/' then path else path ++ ['/']

/-- The path after a segment that removes the one before it. -/
def ascend (kind : Kind) (path : List Char) : List Char :=
  popSegment kind (if lastSlashIsRemovable path then path.dropLast else path)

/-- The path after one more segment, which ends at a slash or at the end of the path. -/
def addSegment (kind : Kind) (path segment : List Char) (slash : Bool) : List Char :=
  if isDoubleDot segment then
    if slash then withFinalSlash (ascend kind path) else ascend kind path
  else if isSingleDot segment then withFinalSlash path
  else
    let path :=
      if kind = .file && isPlainDriveLetter (path.drop 1) && !segment.isEmpty then path ++ ['/']
      else path
    let segment :=
      match segment with
      | [letter, '|'] =>
        if kind = .file && path == ['/'] && letter.isAlpha then [letter, ':'] else segment
      | _ => segment
    path ++ segment ++ (if slash then ['/'] else [])

/-- Read segments up to a question mark or a number sign, after a path and a segment read so far.
The second part of the result is the text that is left. -/
def readSegments (kind : Kind) (path segment : List Char) : List Char → List Char × List Char
  | [] => (addSegment kind path segment false, [])
  | c :: rest =>
    if kind.isSlash c then readSegments kind (addSegment kind path segment true) [] rest
    else if c = '?' || c = '#' then (addSegment kind path segment false, c :: rest)
    else readSegments kind path (segment ++ Text.percentEncode encodedInPath [c]) rest

/-- Read a path after what is already there. The path of a file starts with exactly one slash. -/
def readPath (kind : Kind) (path text : List Char) : List Char × List Char :=
  let (path, rest) := readSegments kind path [] text
  if kind = .file then ('/' :: path.dropWhile (· == '/'), rest) else (path, rest)

/-- Read the path that follows a host. A URL of the web always has a path. -/
def readPathAfterHost (kind : Kind) (text : List Char) : List Char × List Char :=
  match text with
  | [] => if kind.isSpecial then readPath kind ['/'] [] else ([], [])
  | c :: rest =>
    if kind.isSlash c then readPath kind ['/'] rest
    else if !kind.isSpecial && (c = '?' || c = '#') then ([], c :: rest)
    else readPath kind ['/'] (c :: rest)

/-- Read an opaque path. -/
def readOpaquePath : List Char → List Char × List Char
  | [] => ([], [])
  | c :: rest =>
    if c = '?' || c = '#' then ([], c :: rest)
    else
      let (path, rest) := readOpaquePath rest
      (Text.percentEncode isControlOrWide [c] ++ path, rest)

end InventoryQuery.Url

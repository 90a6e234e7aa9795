import InventoryQuery.Url.Host
import InventoryQuery.Url.Path

/-!
# Reading URLs

How a text is read as a URL, on its own or relative to another one. White space and controls at
either end and tabs and line breaks anywhere are left out first. A text with a scheme is a URL of
its own, unless it has the scheme of the base and fewer than two slashes behind it; any other text
takes over the parts of the base that come before the first part of its own.
-/

namespace InventoryQuery.Url

/-- The text without controls and spaces at either end and without tabs and line breaks. -/
def clean (text : List Char) : List Char :=
  let isEdge (c : Char) : Bool := c.toNat ≤ 0x20
  let trimmed := ((text.dropWhile isEdge).reverse.dropWhile isEdge).reverse
  trimmed.filter (fun c => c != '\t' && c != '\n' && c != '\r')

/-- The characters of a scheme after its first letter. -/
def isSchemeChar (c : Char) : Bool := c.isAlphanum || c == '+' || c == '-' || c == '.'

/-- The scheme in front of a text, in lower case, and the text after its colon. -/
def splitScheme? (text : List Char) : Option (String × List Char) :=
  match text with
  | [] => none
  | c :: _ =>
    if !c.isAlpha then none
    else
      match text.dropWhile isSchemeChar with
      | ':' :: rest => some (String.ofList ((text.takeWhile isSchemeChar).map Char.toLower), rest)
      | _ => none

/-- Whether a character is a slash of either direction. -/
def isAnySlash (c : Char) : Bool := c == '/' || c == '\\'

/-- Read a query and a fragment at the end of a URL. -/
def readEnd (special : Bool) (text : List Char) : Option (List Char) × Option (List Char) :=
  match text with
  | '?' :: rest =>
    let query := Text.percentEncode (encodedInQuery special) (rest.takeWhile (· != '#'))
    match rest.dropWhile (· != '#') with
    | [] => (some query, none)
    | _ :: fragment => (some query, some (Text.percentEncode encodedInFragment fragment))
  | '#' :: fragment => (none, some (Text.percentEncode encodedInFragment fragment))
  | _ => (none, none)

/-- A URL with what is left of a text as its query and fragment. -/
def withEnd (url : Url) (text : List Char) : Url :=
  let (query, fragment) := readEnd url.kind.isSpecial text
  { url with query, fragment }

/-- The text up to the end of the authority, and the text after it. -/
def splitAuthority (kind : Kind) (text : List Char) : List Char × List Char :=
  let ends (c : Char) : Bool := kind.isSlash c || c == '?' || c == '#'
  (text.takeWhile (fun c => !ends c), text.dropWhile (fun c => !ends c))

/-- The text before the last occurrence of a character and the text after it. -/
def splitAtLast? (mark : Char) (text : List Char) : Option (List Char × List Char) :=
  let reversed := text.reverse
  match reversed.dropWhile (· != mark) with
  | [] => none
  | _ :: before => some (before.reverse, (reversed.takeWhile (· != mark)).reverse)

/-- The user and the password in front of a host, encoded, and the text after them. -/
def readUser (authority : List Char) (followed : Bool) :
    Except Error (String × String × List Char) :=
  match splitAtLast? '@' authority with
  | none => .ok ("", "", authority)
  | some ([], rest) => if rest.isEmpty && followed then .error .emptyHost else .ok ("", "", rest)
  | some (user, rest) =>
    let encode (part : List Char) : String := String.ofList (Text.percentEncode encodedInUser part)
    match user.dropWhile (· != ':') with
    | [] => .ok (encode user, "", rest)
    | _ :: password => .ok (encode (user.takeWhile (· != ':')), encode password, rest)

/-- The text of the host and the text after it, where a colon outside brackets ends the host. -/
def splitHost (inBrackets : Bool) : List Char → List Char × List Char
  | [] => ([], [])
  | c :: rest =>
    if c = ':' && !inBrackets then ([], c :: rest)
    else
      let inBrackets := c = '[' || (c ≠ ']' && inBrackets)
      let (host, rest) := splitHost inBrackets rest
      (c :: host, rest)

/-- Read a port after its colon. -/
def readPort (scheme : String) (text : List Char) : Except Error (Option Nat) :=
  match digitsValue? 10 text with
  | none => .error .badPort
  | some port =>
    if port > 65535 then .error .badPort
    else if text.isEmpty || defaultPort? scheme = some port then .ok none
    else .ok (some port)

/-- Read the host and the port of a URL that is not a file. The last part of the result is the
text that is left, because a port ends at a backslash whatever the scheme is. -/
def readHostAndPort (scheme : String) (text : List Char) :
    Except Error (Option Host × Option Nat × List Char) := do
  let kind := Kind.ofScheme scheme
  let (hostText, rest) := splitHost false text
  if hostText.isEmpty then
    if kind.isSpecial || !rest.isEmpty then throw .emptyHost else return (none, none, [])
  let host ← if kind.isSpecial then readHost hostText else readOpaqueHost hostText
  match rest with
  | [] => return (some host, none, [])
  | _ :: portText =>
    let port ← readPort scheme (portText.takeWhile (· != '\\'))
    return (some host, port, portText.dropWhile (· != '\\'))

/-- Read what follows the two slashes of a URL that is not a file. -/
def readAfterSlashes (scheme : String) (text : List Char) : Except Error Url := do
  let kind := Kind.ofScheme scheme
  let (authorityText, rest) := splitAuthority kind text
  let (username, password, hostText) ← readUser authorityText (!rest.isEmpty)
  let (host, port, left) ← readHostAndPort scheme hostText
  if host.isNone && (username ≠ "" || password ≠ "") then throw .emptyHost
  let (path, rest) := readPathAfterHost kind (left ++ rest)
  return ({ scheme, authority := some { username, password, host, port }, path : Url }).withEnd rest

/-- The first segment of a path. -/
def firstSegment (path : List Char) : List Char := (path.drop 1).takeWhile (· != '/')

/-- The host of a file; the local host is left out. -/
def readFileHost (text : List Char) : Except Error (Option Host) :=
  if text.isEmpty then .ok none
  else
    match readHost text with
    | .error e => .error e
    | .ok (.domain "localhost") => .ok none
    | .ok host => .ok (some host)

/-- A file URL with a path that is read after what is already there. -/
def fileWithPath (host : Option Host) (path text : List Char) : Url :=
  let (path, rest) := readPath .file path text
  ({ scheme := "file", authority := some { host }, path : Url }).withEnd rest

/-- Read what follows the scheme of a file. -/
def readFile (base : Option Url) (text : List Char) : Except Error Url :=
  match text with
  | a :: b :: rest =>
    if isAnySlash a && isAnySlash b then
      let ends (c : Char) : Bool := isAnySlash c || c == '?' || c == '#'
      let hostText := rest.takeWhile (fun c => !ends c)
      if isDriveLetter hostText then .ok (fileWithPath none ['/'] rest)
      else
        match readFileHost hostText with
        | .error e => .error e
        | .ok host =>
          let url := fileWithPath host ['/'] (rest.dropWhile (fun c => !ends c))
          if isPlainDriveLetter (firstSegment url.path) then
            .ok { url with authority := some {} }
          else .ok url
    else readFileSingle (a :: b :: rest)
  | text => readFileSingle text
where
  /-- Read a text with at most one slash in front. -/
  readFileSingle (text : List Char) : Except Error Url :=
    let baseHost := base.bind (fun url => url.authority.bind Authority.host)
    match text, base with
    | [], some url => .ok url.withoutFragment
    | [], none => .ok (fileWithPath none ['/'] [])
    | c :: rest, _ =>
      if isAnySlash c then
        match base with
        | some url =>
          if startsWithDriveLetter rest then .ok (fileWithPath none [] text)
          else if isPlainDriveLetter (firstSegment url.path) then
            .ok (fileWithPath none ('/' :: firstSegment url.path) text)
          else .ok (fileWithPath baseHost [] text)
        | none => .ok (fileWithPath none [] text)
      else
        match base with
        | none => .ok (fileWithPath none ['/'] text)
        | some url =>
          if c = '?' then .ok (url.withEnd text)
          else if c = '#' then .ok { url with fragment := (readEnd true text).2 }
          else if startsWithDriveLetter text then .ok (fileWithPath none ['/'] text)
          else .ok (fileWithPath baseHost (popSegment .file url.path) text)

/-- The base with its path replaced by one that is read after what is already there. -/
def withPath (base : Url) (path text : List Char) : Url :=
  let (path, rest) := readPath base.kind path text
  ({ base with path }).withEnd rest

/-- Read a text relative to a base that is not a file. -/
def readRelative (base : Url) (text : List Char) : Except Error Url :=
  match text with
  | [] => .ok base.withoutFragment
  | '?' :: _ => .ok (base.withEnd text)
  | '#' :: _ => .ok { base with fragment := (readEnd base.kind.isSpecial text).2 }
  | c :: rest =>
    if isAnySlash c then
      match rest with
      | d :: afterTwo =>
        if isAnySlash d then
          let afterSlashes :=
            if c = '/' && d = '/' then afterTwo else afterTwo.dropWhile isAnySlash
          readAfterSlashes base.scheme afterSlashes
        else .ok (withPath base ['/'] rest)
      | [] => .ok (withPath base ['/'] rest)
    else
      let path := popSegment base.kind base.path
      .ok (withPath base (if path.isEmpty then ['/'] else path) text)

/-- Read what follows a scheme that is not special. -/
def readOther (scheme : String) (text : List Char) : Except Error Url :=
  match text with
  | '/' :: '/' :: rest => readAfterSlashes scheme rest
  | '/' :: rest =>
    let (path, rest) := readPath .other ['/'] rest
    .ok (({ scheme, path : Url }).withEnd rest)
  | text =>
    let (path, rest) := readOpaquePath text
    .ok (({ scheme, path : Url }).withEnd rest)

/-- Read a text behind a scheme. -/
def readWithScheme (base : Option Url) (scheme : String) (text : List Char) : Except Error Url :=
  match Kind.ofScheme scheme with
  | .file => readFile (base.filter (fun url => url.scheme = "file")) text
  | .other => readOther scheme text
  | .web =>
    let afterSlashes := text.dropWhile isAnySlash
    match base with
    | some url =>
      if url.scheme = scheme && text.length < afterSlashes.length + 2 then readRelative url text
      else readAfterSlashes scheme afterSlashes
    | none => readAfterSlashes scheme afterSlashes

/-- Read a text, relative to a base if there is one. -/
def read (base : Option Url) (text : List Char) : Except Error Url :=
  let text := clean text
  match splitScheme? text, base with
  | some (scheme, rest), _ => readWithScheme base scheme rest
  | none, none => .error .relativeWithoutBase
  | none, some url =>
    if text.head? = some '#' then .ok { url with fragment := (readEnd url.kind.isSpecial text).2 }
    else if url.isOpaque then .error .relativeToOpaqueBase
    else if url.kind = .file then readFile base text
    else readRelative url text

/-- Read a text as a URL of its own. -/
def parse (text : String) : Except Error Url := read none text.toList

/-- Read a reference relative to a URL. -/
def join (base : Url) (reference : String) : Except Error Url := read (some base) reference.toList

end InventoryQuery.Url

import InventoryQuery.Toml.Scalar
import InventoryQuery.Toml.Text

/-!
# Reading TOML

How a text is cut into lines of the three kinds: a header, a header in double brackets, and a key
with its value. Arrays may go over several lines and hold comments; inline tables may not. Arrays
and inline tables nest, and keys are dotted, up to a limit.
-/

namespace InventoryQuery.Toml

/-- How deep arrays and inline tables may nest, and how many parts a key may have. -/
def nestingLimit : Nat := 79

/-- Whether a character is white space within a line. -/
def isSpace (c : Char) : Bool := c == ' ' || c == '\t'

/-- The text without the white space in front. -/
def skipSpace (text : List Char) : List Char := text.dropWhile isSpace

/-- The text after a line break. -/
def afterBreak? : List Char → Option (List Char)
  | '\n' :: rest => some rest
  | '\r' :: '\n' :: rest => some rest
  | _ => none

/-- The text without a comment in front. -/
def skipComment : List Char → List Char
  | '#' :: rest => rest.dropWhile isLineChar
  | text => text

/-- The text after the end of a line, which may hold a comment. -/
def afterLine? (text : List Char) : Option (List Char) :=
  match skipComment (skipSpace text) with
  | [] => some []
  | text => afterBreak? text

/-- The text without white space, line breaks and comments in front. -/
def skipGap (fuel : Nat) (text : List Char) : List Char :=
  match fuel with
  | 0 => text
  | fuel + 1 =>
    match text with
    | [] => []
    | c :: rest =>
      if isSpace c then skipGap fuel rest
      else if c = '#' then skipGap fuel (rest.dropWhile isLineChar)
      else
        match afterBreak? (c :: rest) with
        | some rest => skipGap fuel rest
        | none => c :: rest

/-- The characters of a key without quotation marks. -/
def isKeyChar (c : Char) : Bool := c.isAlphanum || c == '-' || c == '_'

/-- One part of a key. -/
def readKeyPart : List Char → Option (String × List Char)
  | '"' :: rest => (readBasic .outside rest).map (fun (part, rest) => (String.ofList part, rest))
  | '\'' :: rest => (readLiteral rest).map (fun (part, rest) => (String.ofList part, rest))
  | text =>
    let part := text.takeWhile isKeyChar
    if part.isEmpty then none else some (String.ofList part, text.dropWhile isKeyChar)

/-- The parts of a key, with white space around each of them. -/
def readKeyParts (fuel : Nat) (text : List Char) : Option (Key × List Char) :=
  match fuel with
  | 0 => none
  | fuel + 1 => do
    let (part, rest) ← readKeyPart (skipSpace text)
    match skipSpace rest with
    | '.' :: rest =>
      let (key, rest) ← readKeyParts fuel rest
      return (⟨part :: key.path, key.last⟩, rest)
    | rest => return (⟨[], part⟩, rest)

/-- A key with no more parts than the limit. -/
def readKey (text : List Char) : Option (Key × List Char) := readKeyParts nestingLimit text

/-- A word at the front of a text. -/
def readWord (word : List Char) (item : Item) (text : List Char) : Option (Item × List Char) :=
  if text.take word.length = word then some (item, text.drop word.length) else none

/-- A value that holds no other value. -/
def readScalar : List Char → Option (Item × List Char)
  | [] => none
  | c :: rest =>
    if c = '"' || c = '\'' then
      (readString (c :: rest)).map (fun (value, rest) => (.string (String.ofList value), rest))
    else if c = 't' then readWord ['t', 'r', 'u', 'e'] (.boolean true) (c :: rest)
    else if c = 'f' then readWord ['f', 'a', 'l', 's', 'e'] (.boolean false) (c :: rest)
    else if c = 'i' || c = 'n' then readFloat (c :: rest)
    else if c = '+' || c = '-' || c.isDigit then readNumberOrMoment (c :: rest)
    else none

mutual

/-- Read a value at the front of a text; `depth` more levels of nesting are allowed, and `fuel`
bounds the steps. -/
def readValue (fuel depth : Nat) (text : List Char) : Option (Item × List Char) :=
  match fuel with
  | 0 => none
  | fuel + 1 =>
    match text with
    | '[' :: rest =>
      match depth with
      | 0 => none
      | depth + 1 => (readItems fuel depth rest).map (fun (items, rest) => (.array items, rest))
    | '\x7b' :: rest =>
      match depth with
      | 0 => none
      | depth + 1 =>
        match skipSpace rest with
        | '\x7d' :: rest => some (.table .inline [], rest)
        | rest => do
          let (pairs, rest) ← readPairs fuel depth rest
          return (← inlineTable? pairs, rest)
    | text => readScalar text

/-- Read the items of an array up to its closing bracket. -/
def readItems (fuel depth : Nat) (text : List Char) : Option (List Item × List Char) :=
  match fuel with
  | 0 => none
  | fuel + 1 =>
    match skipGap text.length text with
    | ']' :: rest => some ([], rest)
    | text => do
      let (item, rest) ← readValue fuel depth text
      match skipGap rest.length rest with
      | ']' :: rest => return ([item], rest)
      | ',' :: rest =>
        let (items, rest) ← readItems fuel depth rest
        return (item :: items, rest)
      | _ => none

/-- Read the pairs of an inline table, at least one, up to its closing brace. -/
def readPairs (fuel depth : Nat) (text : List Char) : Option (List (Key × Item) × List Char) :=
  match fuel with
  | 0 => none
  | fuel + 1 => do
    let (key, rest) ← readKey text
    let rest ← after? '=' rest
    let (item, rest) ← readValue fuel depth (skipSpace rest)
    match skipSpace rest with
    | '\x7d' :: rest => return ([(key, item)], rest)
    | ',' :: rest =>
      let (pairs, rest) ← readPairs fuel depth rest
      return ((key, item) :: pairs, rest)
    | _ => none

end

/-- A key and its value, up to the end of the line. -/
def readPair (text : List Char) : Option (Statement × List Char) := do
  let (key, rest) ← readKey text
  let rest ← after? '=' rest
  let (item, rest) ← readValue (2 * rest.length + 2) nestingLimit (skipSpace rest)
  return (.pair key item, ← afterLine? rest)

/-- A header, up to the end of the line. -/
def readHeader : List Char → Option (Statement × List Char)
  | '[' :: '[' :: text => do
    let (key, rest) ← readKey text
    let rest ← after? ']' (← after? ']' rest)
    return (.element key, ← afterLine? rest)
  | '[' :: text => do
    let (key, rest) ← readKey text
    let rest ← after? ']' rest
    return (.header key, ← afterLine? rest)
  | _ => none

/-- Read lines up to the end of the text. -/
def readLines (fuel : Nat) (text : List Char) : Option (List Statement) :=
  match fuel with
  | 0 => none
  | fuel + 1 =>
    match skipSpace text with
    | [] => some []
    | '[' :: rest => do
      let (statement, rest) ← readHeader ('[' :: rest)
      return statement :: (← readLines fuel rest)
    | c :: rest =>
      if c = '#' || c = '\n' || c = '\r' then do
        readLines fuel (← afterLine? (c :: rest))
      else do
        let (statement, rest) ← readPair (c :: rest)
        return statement :: (← readLines fuel rest)

/-- The text without a byte order mark in front. -/
def dropByteOrderMark : List Char → List Char
  | c :: rest => if c.toNat = 0xfeff then rest else c :: rest
  | [] => []

/-- Read a text as a table. -/
def parse? (text : String) : Option Entries := do
  let text := dropByteOrderMark text.toList
  entriesOf (← readLines (text.length + 1) text)

end InventoryQuery.Toml

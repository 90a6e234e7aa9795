import InventoryQuery.Http.Status
import InventoryQuery.RawText
import InventoryQuery.Url.Address

/-!
# Replies

What a server sends back, and how it is read from the bytes that arrive. A reply is a head of lines
up to an empty one and a body. How long the body is follows from the head: it comes in chunks, or it
has an announced length, or it ends with the connection. A reply may announce more bytes than arrive
before the connection closes, and it may name another place to ask instead. A reply whose code comes
before the one that answers the request has no body: what follows its head is the next reply.
-/

namespace InventoryQuery.Http

/-- What a server sends back. -/
structure Reply where
  status : Nat := 200
  body : List UInt8 := []
  /-- Whether all announced bytes arrive. -/
  complete : Bool := true
  /-- The place to ask instead, if one is named. -/
  location : Option RawText := none
  deriving DecidableEq, Repr

namespace Reply

/-- The text of the body, if all of it arrived. -/
def text? (reply : Reply) : Option String :=
  if reply.complete then some (Text.decodeLossy reply.body) else none

/-- The lines up to an empty one, and the bytes after it. A line ends with a line feed, with or
without a carriage return before it; `line` holds the start of the first one in reverse. -/
def headLines? (line : List UInt8) : List UInt8 → Option (List (List UInt8) × List UInt8)
  | [] => none
  | byte :: rest =>
    if byte = 10 then
      let line := if line.head? = some 13 then line.tail else line
      if line.isEmpty then some ([], rest)
      else (headLines? [] rest).map (fun (lines, rest) => (line.reverse :: lines, rest))
    else headLines? (byte :: line) rest

/-- The status code in the first line of a reply. -/
def statusOfLine? (line : List UInt8) : Option Nat :=
  let text := (Text.decodeLossy line).toList
  if "HTTP/1.".toList.isPrefixOf text then
    Url.digitsValue? 10 (((text.dropWhile (· ≠ ' ')).drop 1).take 3)
  else none

/-- A text in lower case. -/
def lowerText (bytes : List UInt8) : List Char := (Text.decodeLossy bytes).toList.map Char.toLower

/-- The name in a line of a head, in lower case, and the value without blanks at either end. -/
def fieldOfLine (line : List UInt8) : List Char × List UInt8 :=
  let isSpace (byte : UInt8) : Bool := byte = 32 || byte = 9
  let isColon (byte : UInt8) : Bool := byte = 58
  let value := (line.dropWhile (!isColon ·)).drop 1
  (lowerText (line.takeWhile (!isColon ·)),
    ((value.dropWhile isSpace).reverse.dropWhile isSpace).reverse)

/-- The value of a field, if a head has it. -/
def field? (name : String) (fields : List (List Char × List UInt8)) : Option (List UInt8) :=
  (fields.find? (fun field => field.1 = name.toList)).map Prod.snd

/-- The first line and the bytes after it. -/
def splitLine (bytes : List UInt8) : List UInt8 × List UInt8 :=
  ((bytes.takeWhile (· ≠ 10)).filter (· ≠ 13), (bytes.dropWhile (· ≠ 10)).drop 1)

/-- The body in some chunks, and whether the last of them is there. Each chunk is a line with its
length, that many bytes and an empty line; the last one is empty. There are at most `limit`. -/
def joinChunks (limit : Nat) (bytes : List UInt8) : List UInt8 × Bool :=
  match limit with
  | 0 => ([], false)
  | limit + 1 =>
    let (line, rest) := splitLine bytes
    let digits := (Text.decodeLossy line).toList.takeWhile (fun c => (Text.hexValue? c).isSome)
    match digits, Text.hexNumber? digits with
    | [], _ | _, none => ([], false)
    | _, some 0 => ([], true)
    | _, some length =>
      if rest.length < length then (rest, false)
      else
        let (body, complete) := joinChunks limit (splitLine (rest.drop length)).2
        (rest.take length ++ body, complete)

/-- The body of a reply with some fields in its head, and whether all of it is there. -/
def bodyOf (fields : List (List Char × List UInt8)) (bytes : List UInt8) : List UInt8 × Bool :=
  if (field? "transfer-encoding" fields).map lowerText = some "chunked".toList then
    joinChunks bytes.length bytes
  else
    match (field? "content-length" fields).bind fun value => Url.digitsValue? 10 (lowerText value) with
    | some length => (bytes.take length, length ≤ bytes.length)
    | none => (bytes, true)

/-- The reply as the client gets to see it: nothing unless its code can answer a request, and
without a body where the code does not allow one. -/
def answering? (reply : Reply) : Option Reply :=
  if reply.status < 100 || reply.status > 999 then none
  else if hasNoBody reply.status then some { reply with body := [], complete := true }
  else some reply

/-- The reply in the bytes that arrive on a connection. Replies that come before the one that
answers the request are passed over, at most `limit` of them. -/
def ofBytesWithin? (limit : Nat) (bytes : List UInt8) : Option Reply :=
  match limit with
  | 0 => none
  | limit + 1 => do
    let (lines, rest) ← headLines? [] bytes
    let first ← lines.head?
    let status ← statusOfLine? first
    if isInformational status then ofBytesWithin? limit rest
    else
      let fields := lines.tail.map fieldOfLine
      let (body, complete) := bodyOf fields rest
      answering? ⟨status, body, complete, (field? "location" fields).map RawText.mk⟩

/-- The reply in the bytes that arrive on a connection. -/
def ofBytes? (bytes : List UInt8) : Option Reply := ofBytesWithin? bytes.length bytes

/-- The reply that answers the request, if the one that is sent does or one that follows it. -/
def received? (reply : Reply) : Option Reply :=
  if isInformational reply.status then ofBytes? reply.body else reply.answering?

end Reply

end InventoryQuery.Http

import InventoryQuery.Number.Text

/-!
# Tagged elements

Certificates and keys are made of elements: a tag, the length of the content, and the content,
which may be made of elements in turn. A length is written in as few bytes as possible, at most
two and a mark.
-/

namespace InventoryQuery.Credentials.Der

/-- A reader takes what it reads from the front of some bytes, or refuses them. -/
abbrev Reader (α : Type) := StateT (List UInt8) Option α

/-- The tag of an integer. -/
def integer : Nat := 0x02

/-- The tag of a string of bits. -/
def bitString : Nat := 0x03

/-- The tag of a string of bytes. -/
def octetString : Nat := 0x04

/-- The tag of an identifier. -/
def identifier : Nat := 0x06

/-- The tag of a truth value. -/
def boolean : Nat := 0x01

/-- The tag of a sequence. -/
def sequence : Nat := 0x30

/-- The tag of a numbered element that holds elements. -/
def numbered (number : Nat) : Nat := 0xa0 + number

/-- The length in front of some bytes, and the bytes after it. -/
def readLength? : List UInt8 → Option (Nat × List UInt8)
  | [] => none
  | first :: rest =>
    if first.toNat < 0x80 then some (first.toNat, rest)
    else if first.toNat = 0x81 then
      match rest with
      | length :: rest => if length.toNat < 0x80 then none else some (length.toNat, rest)
      | [] => none
    else if first.toNat = 0x82 then
      match rest with
      | high :: low :: rest =>
        let length := high.toNat * 256 + low.toNat
        if length < 0x100 then none else some (length, rest)
      | _ => none
    else none

/-- Read the content of an element with a tag. -/
def element (tag : Nat) : Reader (List UInt8) := fun bytes =>
  match bytes with
  | [] => none
  | first :: rest =>
    if first.toNat ≠ tag then none
    else
      match readLength? rest with
      | none => none
      | some (length, rest) =>
        if rest.length < length then none else some (rest.take length, rest.drop length)

/-- Whether the next element has a tag. -/
def next (tag : Nat) : Reader Bool := fun bytes =>
  some ((bytes.head?.map UInt8.toNat) = some tag, bytes)

/-- Read the content of an element with a tag, if the next one has it. -/
def element? (tag : Nat) : Reader (Option (List UInt8)) := do
  if ← next tag then
    return some (← element tag)
  else return none

/-- Refuse the bytes unless a condition holds. -/
def require (condition : Bool) : Reader Unit := fun bytes =>
  if condition then some ((), bytes) else none

/-- Read all of some bytes. -/
def readAll? {α : Type} (reader : Reader α) (bytes : List UInt8) : Option α :=
  match reader bytes with
  | some (value, []) => some value
  | _ => none

/-- Read an element with a tag whose content is read by a reader. -/
def nested {α : Type} (tag : Nat) (reader : Reader α) : Reader α := do
  let content ← element tag
  fun bytes => (readAll? reader content).map (·, bytes)

/-- The number that bytes stand for, the first of them counting most. -/
def number (bytes : List UInt8) : Nat :=
  bytes.foldl (fun total byte => total * 256 + byte.toNat) 0

/-- Read an integer that is not negative. -/
def natural : Reader Nat := do
  let content ← element integer
  match content with
  | [] => require false
  | [first] => require (first.toNat < 0x80)
  | first :: second :: _ =>
    require (first.toNat < 0x80 && (first.toNat ≠ 0 || second.toNat ≥ 0x80))
  return number content

/-- Read a string of bits that are whole bytes. -/
def wholeBits : Reader (List UInt8) := do
  let content ← element bitString
  match content with
  | unused :: bits =>
    require (unused = 0)
    return bits
  | [] =>
    require false
    return []

/-- The bytes of a number, the first of them counting most. -/
def numberBytes (n : Nat) : List UInt8 :=
  if n < 256 then [UInt8.ofNat n] else numberBytes (n / 256) ++ [UInt8.ofNat (n % 256)]
termination_by n
decreasing_by omega

/-- The bytes of a length. -/
def lengthBytes (length : Nat) : List UInt8 :=
  if length < 0x80 then [UInt8.ofNat length]
  else
    let bytes := numberBytes length
    UInt8.ofNat (0x80 + bytes.length) :: bytes

/-- The bytes of an element. -/
def elementBytes (tag : Nat) (content : List UInt8) : List UInt8 :=
  UInt8.ofNat tag :: lengthBytes content.length ++ content

/-- The bytes of an integer that is not negative. -/
def naturalBytes (n : Nat) : List UInt8 :=
  let bytes := numberBytes n
  elementBytes integer (if (bytes.head?.map UInt8.toNat).getD 0 < 0x80 then bytes else 0 :: bytes)

end InventoryQuery.Credentials.Der

/-!
# Bytes and characters

The bytes of a text in UTF-8, and a reading of arbitrary bytes that puts the replacement character
for every maximal run of bytes that could start a character but does not become one.
-/

namespace InventoryQuery.Text

/-- The bytes of a text. -/
def bytes (text : List Char) : List UInt8 := text.flatMap String.utf8EncodeChar

/-- The character that stands for bytes that are not text. -/
def replacement : Char := Char.ofNat 0xfffd

/-- A character of which the first bytes are read: how many bytes it still needs, between which
bounds the next of them has to lie, and the bits read so far. -/
structure Partial where
  needed : Nat
  low : Nat
  high : Nat
  bits : Nat
  deriving DecidableEq, Repr

/-- Start a character with a byte: what it stands for on its own, or the state after it. -/
def Partial.start (byte : Nat) : List Char × Option Partial :=
  if byte < 0x80 then ([Char.ofNat byte], none)
  else if byte < 0xc2 then ([replacement], none)
  else if byte < 0xe0 then ([], some ⟨1, 0x80, 0xbf, byte - 0xc0⟩)
  else if byte < 0xf0 then
    let low := if byte = 0xe0 then 0xa0 else 0x80
    let high := if byte = 0xed then 0x9f else 0xbf
    ([], some ⟨2, low, high, byte - 0xe0⟩)
  else if byte < 0xf5 then
    let low := if byte = 0xf0 then 0x90 else 0x80
    let high := if byte = 0xf4 then 0x8f else 0xbf
    ([], some ⟨3, low, high, byte - 0xf0⟩)
  else ([replacement], none)

/-- Take in one more byte: the characters that are complete with it, and the state after it. -/
def Partial.step (state : Option Partial) (byte : Nat) : List Char × Option Partial :=
  match state with
  | none => Partial.start byte
  | some p =>
    if p.low ≤ byte && byte ≤ p.high then
      let bits := p.bits * 0x40 + (byte - 0x80)
      if p.needed ≤ 1 then ([Char.ofNat bits], none)
      else ([], some ⟨p.needed - 1, 0x80, 0xbf, bits⟩)
    else
      let (characters, state) := Partial.start byte
      (replacement :: characters, state)

/-- Read bytes as text from a state on. -/
def decodeFrom (state : Option Partial) : List UInt8 → List Char
  | [] => if state.isSome then [replacement] else []
  | byte :: rest =>
    let (characters, state) := Partial.step state byte.toNat
    characters ++ decodeFrom state rest

/-- Read bytes as text, with replacement characters for what is not text. -/
def decodeLossy (bytes : List UInt8) : String := String.ofList (decodeFrom none bytes)

/-- A text is read back from its bytes. -/
theorem fromUTF8?_toUTF8 (text : String) : String.fromUTF8? text.toUTF8 = some text := by
  rw [String.fromUTF8?]
  exact dif_pos text.isValidUTF8

end InventoryQuery.Text

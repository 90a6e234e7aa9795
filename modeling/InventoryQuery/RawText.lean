import InventoryQuery.Text.Utf8

/-!
# Raw texts

What the system has for a text, as in a path or in the value of a variable: bytes, which need not be
UTF-8.
-/

namespace InventoryQuery

/-- Bytes that stand for a text, but need not be one. -/
structure RawText where
  bytes : List UInt8
  deriving DecidableEq, Inhabited, Repr

namespace RawText

/-- The bytes of a text. -/
def ofText (text : String) : RawText := ⟨text.toUTF8.data.toList⟩

instance : Coe String RawText := ⟨ofText⟩

/-- The text, if the bytes are one. -/
def text? (raw : RawText) : Option String := String.fromUTF8? ⟨raw.bytes.toArray⟩

/-- The text as it is shown, with replacement characters for what is not text. -/
def shown (raw : RawText) : String := Text.decodeLossy raw.bytes

/-- Whether there are no bytes. -/
def isEmpty (raw : RawText) : Bool := raw.bytes.isEmpty

/-- The bytes of a text are that text. -/
@[simp] theorem text?_ofText (text : String) : (ofText text).text? = some text := by
  rw [text?, ofText, Array.toArray_toList]
  exact Text.fromUTF8?_toUTF8 text

/-- Bytes that are a text are the bytes of that text. -/
theorem eq_ofText_of_text? {raw : RawText} {text : String} (h : raw.text? = some text) :
    raw = ofText text := by
  rw [text?, String.fromUTF8?] at h
  split at h
  · obtain rfl := Option.some.inj h
    rfl
  · exact absurd h (by simp)

end RawText

end InventoryQuery

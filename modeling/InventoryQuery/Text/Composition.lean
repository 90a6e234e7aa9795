import InventoryQuery.Text.CombiningClass
import InventoryQuery.Text.Composition.Pairs

/-!
# Composed texts

A text in which a letter and the marks on it are one character wherever there is such a character,
and the marks that are left over stand in the order of their classes. Texts that look alike because
they differ in this only have the same composed form. The syllables of Hangul are composed of two
or three letters by a rule of their own.
-/

namespace InventoryQuery.Text

/-- The first code points of the leading letters, the vowels and the trailing letters of syllables,
and of the syllables. There are 19, 21 and 27 letters, and a syllable may lack a trailing one. -/
def leadingStart : Nat := 0x1100

@[inherit_doc leadingStart]
def vowelStart : Nat := 0x1161

/-- The code point before the trailing letters of syllables. -/
def trailingStart : Nat := 0x11a7

/-- The first code point of the syllables. -/
def syllableStart : Nat := 0xac00

/-- The letters of a syllable. -/
def syllableLetters? (c : Char) : Option (List Char) :=
  let index := c.toNat - syllableStart
  if c.toNat < syllableStart || 11172 ≤ index then none
  else
    let letters :=
      [Char.ofNat (leadingStart + index / 588), Char.ofNat (vowelStart + index % 588 / 28)]
    some (if index % 28 = 0 then letters
      else letters ++ [Char.ofNat (trailingStart + index % 28)])

/-- The syllable of a leading letter and a vowel, or of such a syllable and a trailing letter. -/
def syllable? (a b : Char) : Option Char :=
  let leading := a.toNat - leadingStart
  let index := a.toNat - syllableStart
  if leadingStart ≤ a.toNat && leading < 19 && vowelStart ≤ b.toNat && b.toNat < vowelStart + 21 then
    some (Char.ofNat (syllableStart + leading * 588 + (b.toNat - vowelStart) * 28))
  else if syllableStart ≤ a.toNat && index < 11172 && index % 28 = 0 && trailingStart < b.toNat &&
      b.toNat < trailingStart + 28 then
    some (Char.ofNat (a.toNat + (b.toNat - trailingStart)))
  else none

/-- The characters that a composed character stands for, taken apart at most `depth` times. -/
def decomposeChar (depth : Nat) (c : Char) : List Char :=
  match depth with
  | 0 => [c]
  | depth + 1 =>
    match syllableLetters? c, Table.find? compositionTable c.toNat with
    | some letters, _ => letters
    | none, some entry => entry.values.flatMap (fun n => decomposeChar depth (Char.ofNat n))
    | none, none => [c]

/-- How often a character can be taken apart. -/
def maxDepth : Nat := 4

/-- Put a mark behind those of its class and of smaller ones at the start of some marks. -/
def insertMark (mark : Char) : List Char → List Char
  | [] => [mark]
  | c :: rest =>
    if combiningClass mark < combiningClass c then mark :: c :: rest
    else c :: insertMark mark rest

/-- The text with every run of marks in the order of their classes. `marks` are those in front of
the text, in order. -/
def orderMarks (marks : List Char) : List Char → List Char
  | [] => marks
  | c :: rest =>
    if combiningClass c = 0 then marks ++ c :: orderMarks [] rest
    else orderMarks (insertMark c marks) rest

/-- The text with every character taken apart, and the marks in order. -/
def decompose (text : List Char) : List Char :=
  orderMarks [] (text.flatMap (decomposeChar maxDepth))

/-- The character that stands for a pair, if there is one. -/
def composePair? (a b : Char) : Option Char :=
  syllable? a b <|>
    (compositionTable.find? (fun entry => entry.values = [a.toNat, b.toNat])).map
      (fun entry => Char.ofNat entry.first)

/-- The text after a character with class zero and the marks between them, which did not combine
with that character, put together. A character combines with it unless a mark of the same class, or
any mark if it has class zero, stands between them. -/
def composeFrom (starter : Char) (between : List Char) : List Char → List Char
  | [] => starter :: between
  | c :: rest =>
    let class' := combiningClass c
    let reaches := between.all (fun mark => combiningClass mark < class')
    match if reaches then composePair? starter c else none with
    | some composed => composeFrom composed between rest
    | none =>
      if class' = 0 then starter :: between ++ composeFrom c [] rest
      else composeFrom starter (between ++ [c]) rest

/-- The text with characters put together wherever that is possible. -/
def composeAll : List Char → List Char
  | [] => []
  | c :: rest => if combiningClass c = 0 then composeFrom c [] rest else c :: composeAll rest

/-- The composed form of a text. -/
def compose (text : List Char) : List Char := composeAll (decompose text)

end InventoryQuery.Text

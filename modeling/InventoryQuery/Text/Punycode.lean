/-!
# Punycode

Texts written with small letters, digits and dashes. The plain characters of a text come first,
with a dash behind them if there are any. Then follow, for the other characters in the order of
their code points, the distances between the states of a count that runs through all places in the
text for one code point after the other. A distance is a number whose digits have a base that
depends on their place, so that no mark is needed at its end.
-/

namespace InventoryQuery.Text.Punycode

/-- The number of digits. -/
def base : Nat := 36

/-- The code point at which the count starts. -/
def firstCodePoint : Nat := 0x80

/-- The bias at the start. -/
def firstBias : Nat := 72

/-- Whether a character is written as it is. -/
def isPlain (c : Char) : Bool := c.toNat < firstCodePoint

/-- The digit for a number: a letter below 26, a numeral from there on. -/
def digit (n : Nat) : Char := if n < 26 then Char.ofNat (97 + n) else Char.ofNat (22 + n)

/-- The number that a digit stands for. -/
def digitValue? (c : Char) : Option Nat :=
  let n := c.toNat
  if 97 ≤ n && n ≤ 122 then some (n - 97)
  else if 65 ≤ n && n ≤ 90 then some (n - 65)
  else if 48 ≤ n && n ≤ 57 then some (n - 22)
  else none

/-- The number from which on the digit at a place is not the last one. The first place is one. -/
def threshold (bias place : Nat) : Nat := min 26 (max 1 (base * place - bias))

theorem threshold_pos (bias place : Nat) : 0 < threshold bias place := by
  unfold threshold
  omega

/-- Divide a distance until it is small, counting the divisions. -/
def scale (divisions distance : Nat) : Nat × Nat :=
  if distance > 455 then scale (divisions + 1) (distance / 35) else (divisions, distance)
termination_by distance
decreasing_by omega

/-- The bias after a distance, in a text that has `length` characters by then. -/
def adapt (distance length : Nat) (first : Bool) : Nat :=
  let reduced := if first then distance / 700 else distance / 2
  let (divisions, rest) := scale 0 (reduced + reduced / length)
  base * divisions + 36 * rest / (rest + 38)

/-- The digits of a distance from a place on. -/
def digits (bias place distance : Nat) : List Char :=
  let t := threshold bias place
  if distance < t then [digit distance]
  else
    digit (t + (distance - t) % (base - t)) ::
      digits bias (place + 1) ((distance - t) / (base - t))
termination_by distance
decreasing_by
  have hpos := threshold_pos bias place
  have hle : (distance - threshold bias place) / (base - threshold bias place) ≤
      distance - threshold bias place := Nat.div_le_self _ _
  omega

/-- What is kept while a text is encoded: the distance so far, the bias, the number of characters
that are written, and the digits. -/
structure EncodeState where
  distance : Nat
  bias : Nat
  written : Nat
  plain : Nat
  output : List Char

/-- Pass one character of the text while the code point `n` is written. -/
def EncodeState.pass (n : Nat) (state : EncodeState) (c : Char) : EncodeState :=
  if c.toNat < n then { state with distance := state.distance + 1 }
  else if c.toNat = n then
    { state with
      distance := 0
      bias := adapt state.distance (state.written + 1) (state.written = state.plain)
      written := state.written + 1
      output := state.output ++ digits state.bias 1 state.distance }
  else state

/-- Write the characters with the code points in a list, each more than the one before. `next` is
the code point that the count has reached. -/
def encodeAll (text : List Char) (next : Nat) (state : EncodeState) : List Nat → List Char
  | [] => state.output
  | n :: rest =>
    let reached := { state with distance := state.distance + (n - next) * (state.written + 1) }
    let passed := text.foldl (EncodeState.pass n) reached
    encodeAll text (n + 1) { passed with distance := passed.distance + 1 } rest

/-- The code points of the characters that are not plain, in increasing order and each once. -/
def codePoints (text : List Char) : List Nat :=
  ((text.filter (fun c => !isPlain c)).map Char.toNat).foldr insert []
where
  /-- Insert a code point in its place, unless it is there. -/
  insert (n : Nat) : List Nat → List Nat
    | [] => [n]
    | m :: rest => if n < m then n :: m :: rest else if n = m then m :: rest else m :: insert n rest

/-- A text in Punycode. -/
def encode (text : List Char) : List Char :=
  let plain := text.filter isPlain
  let start : EncodeState := ⟨0, firstBias, plain.length, plain.length, []⟩
  (if plain.isEmpty then [] else plain ++ ['-']) ++
    encodeAll text firstCodePoint start (codePoints text)

/-- What is kept while a text is decoded: the code point and the position that the count has
reached, the bias, the characters so far, and, within a distance, the place of the next digit, how
often it counts, and the distance so far. -/
structure DecodeState where
  codePoint : Nat := firstCodePoint
  position : Nat := 0
  bias : Nat := firstBias
  first : Bool := true
  output : List Char
  place : Nat := 1
  weight : Nat := 1
  distance : Nat := 0

/-- Put the character into the text that the distance leads to. -/
def DecodeState.insert? (state : DecodeState) (distance : Nat) : Option DecodeState :=
  let length := state.output.length + 1
  let codePoint := state.codePoint + (state.position + distance) / length
  let position := (state.position + distance) % length
  if codePoint.isValidChar then
    some
      { codePoint
        position := position + 1
        bias := adapt distance length state.first
        first := false
        output := state.output.take position ++ Char.ofNat codePoint :: state.output.drop position }
  else none

/-- Read one digit. -/
def DecodeState.read? (state : DecodeState) (c : Char) : Option DecodeState := do
  let value ← digitValue? c
  let t := threshold state.bias state.place
  let distance := state.distance + value * state.weight
  if value < t then state.insert? distance
  else return { state with place := state.place + 1, weight := state.weight * (base - t), distance }

/-- The text before the last dash, and the text after it; all of the text comes after it if there
is no dash or nothing before it. -/
def splitPlain (text : List Char) : List Char × List Char :=
  let reversed := text.reverse
  match (reversed.dropWhile (· ≠ '-')).drop 1 with
  | [] => ([], text)
  | plain => (plain.reverse, (reversed.takeWhile (· ≠ '-')).reverse)

/-- The text that is written in Punycode; `none` if there is none, or the last distance has no
end. -/
def decode? (text : List Char) : Option (List Char) := do
  let (plain, rest) := splitPlain text
  guard (plain.all isPlain)
  let state ← rest.foldlM DecodeState.read? { output := plain }
  guard (state.place = 1)
  return state.output

end InventoryQuery.Text.Punycode

import InventoryQuery.Credentials.Base64

/-!
# Labelled sections

Text that carries certificates and keys in sections, each between a line that begins it and a line
that ends it, both with its label. Text outside the sections is ignored, and so are sections with
labels that mean nothing here.
-/

namespace InventoryQuery.Credentials.Pem

/-- What a section holds. -/
inductive Kind where
  | certificate
  | publicKey
  | privateKey
  | rsaPrivateKey
  | ecPrivateKey
  | revocationList
  | certificateRequest
  | helloKeys
  deriving DecidableEq, Repr

/-- The kind of a section with a label. -/
def Kind.ofLabel? (label : List UInt8) : Option Kind :=
  let labels : List (String × Kind) :=
    [("CERTIFICATE", .certificate), ("PUBLIC KEY", .publicKey), ("PRIVATE KEY", .privateKey),
      ("RSA PRIVATE KEY", .rsaPrivateKey), ("EC PRIVATE KEY", .ecPrivateKey),
      ("X509 CRL", .revocationList), ("CERTIFICATE REQUEST", .certificateRequest),
      ("ECHCONFIG", .helloKeys)]
  (labels.find? (fun pair => pair.1.toUTF8.toList = label)).map Prod.snd

/-- A section: what it holds, and the bytes of it. -/
structure Section where
  kind : Kind
  content : List UInt8
  deriving DecidableEq, Repr

/-- The lines of a text. A line ends with a line feed or a carriage return. -/
def lines : List UInt8 → List (List UInt8)
  | [] => [[]]
  | byte :: rest =>
    match lines rest with
    | [] => [[byte]]
    | line :: more =>
      if byte = 10 || byte = 13 then [] :: line :: more else (byte :: line) :: more

/-- The dash. -/
def dash : UInt8 := 45

/-- How a line that begins a section starts. -/
def beginMark : List UInt8 := "-----BEGIN ".toUTF8.toList

/-- How a line that ends the section with a label starts. -/
def endMark (label : List UInt8) : List UInt8 :=
  "-----END ".toUTF8.toList ++ label ++ List.replicate 5 dash

/-- The label in a line that begins a section, which ends with five dashes. Spaces between and
after the dashes are ignored. -/
def label? (line : List UInt8) : Option (List UInt8) :=
  let afterMark := (line.drop beginMark.length).reverse
  let ending := afterMark.takeWhile (fun byte => byte = dash || byte = 32)
  let spaces := (ending.reverse.takeWhile (· = 32)).length
  if ending.count dash = 5 then
    some ((afterMark.drop (ending.length - spaces)).reverse)
  else none

/-- The state between two lines: the label of the section that is open, and the text in it. -/
structure State where
  label : Option (List UInt8) := none
  text : List UInt8 := []
  deriving DecidableEq, Repr

/-- The sections of a text from its lines; `none` if a line that begins a section has no label, if
the text of a section stands for no bytes, or if the last section does not end. A line that begins
a section within another one takes over the text read so far. -/
def readLines (state : State) : List (List UInt8) → Option (List Section)
  | [] => if state.label.isSome then none else some []
  | line :: rest =>
    if beginMark.isPrefixOf line then
      (label? line).bind fun label => readLines { state with label := some label } rest
    else
      match state.label with
      | none => readLines state rest
      | some label =>
        if (endMark label).isPrefixOf line then
          match Kind.ofLabel? label with
          | none => readLines {} rest
          | some kind => do
            let content ← Base64.decode? state.text
            let sections ← readLines {} rest
            return ⟨kind, content⟩ :: sections
        else readLines { state with text := state.text ++ line } rest

/-- The sections of a text. -/
def sections? (text : List UInt8) : Option (List Section) := readLines {} (lines text)

end InventoryQuery.Credentials.Pem

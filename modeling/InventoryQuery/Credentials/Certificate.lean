import InventoryQuery.Credentials.Key

/-!
# Certificates

The outline of a certificate, as far as it decides whether the certificate can be used: its
version, its public key, and that nothing critical in it goes unheeded. Who signed it and when it
is valid is for the server to judge.
-/

namespace InventoryQuery.Credentials

/-- A certificate. Only those of the third version can have extensions. -/
structure Certificate where
  thirdVersion : Bool
  publicKey : PublicKey
  deriving DecidableEq, Repr

namespace Certificate

open Der

/-- The identifiers of the extensions that are heeded: those for the usage of the key, further
names, basic constraints, constraints on names, revocation lists, and the purpose of the key. -/
def heeded : List (List UInt8) :=
  [15, 17, 19, 30, 31, 37].map (fun last => [0x55, 0x1d, last])

/-- Read an extension: its identifier, whether it is critical, and its value. -/
def extension : Reader (List UInt8) := do
  let (name, critical) ← nested sequence (do
    let name ← element identifier
    let critical ← element? boolean
    let _ ← element octetString
    require (critical = none || critical = some [0xff] || critical = some [0])
    return (name, decide (critical = some [0xff])))
  require (!critical || heeded.contains name)
  return name

/-- Read extensions up to the end of the bytes, at most as many as there are bytes. -/
def extensions : Nat → Reader (List (List UInt8))
  | 0 => return []
  | limit + 1 => do
    if (← get).isEmpty then return []
    else
      let name ← extension
      let names ← extensions limit
      return name :: names

/-- Whether no heeded extension occurs twice. -/
def occurOnce (names : List (List UInt8)) : Bool :=
  heeded.all (fun name => names.count name ≤ 1)

/-- Read the public key of a certificate. -/
def publicKeyReader : Reader PublicKey :=
  nested sequence (do
    let algorithm ← element sequence
    let bits ← wholeBits
    return ⟨algorithm, bits⟩)

/-- Read what is signed in a certificate: the version, the serial number, the algorithm of the
signature, the issuer, the time of validity, the subject, its public key, and extensions. -/
def signed (signature : List UInt8) : Reader Certificate := do
  let version ← element? (numbered 0)
  let third := version = some [0x02, 0x01, 0x02]
  require (third || version = none)
  let _ ← element integer
  let algorithm ← element sequence
  require (!third || algorithm = signature)
  let _ ← element sequence
  let _ ← element sequence
  let _ ← element sequence
  let publicKey ← publicKeyReader
  if third && (← next (numbered 3)) then
    let names ← nested (numbered 3) (nested sequence (do extensions (← get).length))
    require (occurOnce names)
  return ⟨third, publicKey⟩

/-- Read a certificate: what is signed, the algorithm of the signature, and the signature. -/
def reader : Reader Certificate :=
  nested sequence (do
    let content ← element sequence
    let signature ← element sequence
    let _ ← wholeBits
    fun bytes => (readAll? (signed signature) content).map (·, bytes))

/-- The certificate that bytes stand for. -/
def ofBytes? (bytes : List UInt8) : Option Certificate := readAll? reader bytes

end Certificate

end InventoryQuery.Credentials

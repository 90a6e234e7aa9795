import InventoryQuery.Credentials.Curve
import InventoryQuery.Credentials.Der
import InventoryQuery.Credentials.Pem

/-!
# Private keys

How a private key is read. Every form of it has to hold the public key too, and the two have to
belong together. Keys on the curves of 256 and 384 bits and RSA keys of 2048 to 4096 bits can be
used.
-/

namespace InventoryQuery.Credentials

/-- A public key as certificates hold it: the identification of its algorithm, and its bits. -/
structure PublicKey where
  algorithm : List UInt8
  bits : List UInt8
  deriving DecidableEq, Repr

/-- The identification of the keys on a curve. -/
def Curve.algorithm (curve : Curve) : List UInt8 :=
  [0x06, 0x07, 0x2a, 0x86, 0x48, 0xce, 0x3d, 0x02, 0x01] ++ curve.name

/-- The identification of RSA keys. -/
def rsaAlgorithm : List UInt8 :=
  [0x06, 0x09, 0x2a, 0x86, 0x48, 0x86, 0xf7, 0x0d, 0x01, 0x01, 0x01, 0x05, 0x00]

namespace PrivateKey

open Der

/-- Read what is within a private key that names its algorithm: a version, the algorithm and the
bytes of the key. Attributes after it are ignored. -/
def named (algorithm : List UInt8) : Reader (List UInt8) := do
  let version ← natural
  let found ← element sequence
  require (version = 0 && found = algorithm)
  let key ← element octetString
  let _ ← element? (numbered 0)
  return key

/-- Read what is within a key on a curve: a version, the factor, the curve if it is named once
more, and the point. -/
def onCurve (curve : Curve) : Reader PublicKey := do
  let version ← natural
  let factor ← element octetString
  let again ← element? (numbered 0)
  let point ← nested (numbered 1) wholeBits
  let coordinates := point.drop 1
  require (version = 1 && factor.length = curve.size && again.getD curve.name = curve.name)
  require (point.head? = some 4 && coordinates.length = 2 * curve.size)
  require (curve.isMultiple (number factor) (number (coordinates.take curve.size))
    (number (coordinates.drop curve.size)))
  return ⟨curve.algorithm, point⟩

/-- Read what is within an RSA key: a version, the modulus and the public exponent, the private
exponent, the two primes, the private exponent for each of them, and the inverse of the second
prime for the first. -/
def rsa : Reader PublicKey := do
  let version ← natural
  let modulus ← natural
  let publicExponent ← natural
  let privateExponent ← natural
  let p ← natural
  let q ← natural
  let exponentP ← natural
  let exponentQ ← natural
  let inverse ← natural
  let bits (n : Nat) : Nat := n.log2 + 1
  require (version = 0 && 2048 ≤ bits modulus && bits modulus ≤ 4096)
  require (publicExponent % 2 = 1 && 65537 ≤ publicExponent && bits publicExponent ≤ 33)
  require (p * q = modulus && 2 * bits p = bits modulus && bits q = bits p)
  require (privateExponent % 2 = 1 && privateExponent < modulus)
  require (exponentP % 2 = 1 && exponentP < p && exponentQ % 2 = 1 && exponentQ < q)
  require (inverse < p && inverse * q % p = 1)
  return ⟨rsaAlgorithm, elementBytes sequence (naturalBytes modulus ++ naturalBytes publicExponent)⟩

/-- The public key that belongs to a private key in a form that names its algorithm. -/
def ofNamed? (content : List UInt8) : Option PublicKey :=
  let key? (algorithm : List UInt8) (reader : Reader PublicKey) : Option PublicKey :=
    (readAll? (nested sequence (named algorithm)) content).bind (readAll? (nested sequence reader))
  key? rsaAlgorithm rsa <|> key? Curve.p256.algorithm (onCurve .p256) <|>
    key? Curve.p384.algorithm (onCurve .p384)

/-- The public key that belongs to the private key in a section; `none` if it cannot be used or if
the section holds something else. -/
def ofSection? (part : Pem.Section) : Option PublicKey :=
  match part.kind with
  | .privateKey => ofNamed? part.content
  | .rsaPrivateKey => readAll? (nested sequence rsa) part.content
  | .ecPrivateKey =>
    readAll? (nested sequence (onCurve .p256)) part.content <|>
      readAll? (nested sequence (onCurve .p384)) part.content
  | _ => none

end PrivateKey

end InventoryQuery.Credentials

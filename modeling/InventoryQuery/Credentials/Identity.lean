import InventoryQuery.Credentials.Certificate

/-!
# Identities and authorities

What a client shows to a server, a private key and the certificates that it belongs to, and the
certificates of the authorities that it trusts.
-/

namespace InventoryQuery.Credentials

/-- What a client shows to a server: its certificates, the first of which is its own, and the
section with its private key. -/
structure Identity where
  certificates : List (List UInt8)
  key : Pem.Section
  deriving DecidableEq, Repr

namespace Identity

/-- Whether a section may stand in the text of an identity. -/
def isPart (part : Pem.Section) : Bool :=
  match part.kind with
  | .certificate | .privateKey | .rsaPrivateKey | .ecPrivateKey => true
  | _ => false

/-- The identity in a text. There have to be a certificate and a private key, in any order, and
nothing else; of several keys the last one counts. -/
def ofText? (text : List UInt8) : Option Identity := do
  let sections ← Pem.sections? text
  guard (sections.all isPart)
  let certificates := sections.filter (fun part => part.kind = .certificate)
  let key ← (sections.filter (fun part => part.kind ≠ .certificate)).getLast?
  guard (!certificates.isEmpty)
  return ⟨certificates.map Pem.Section.content, key⟩

/-- Whether the key can be used and belongs to the first certificate. -/
def isUsable (identity : Identity) : Bool :=
  match PrivateKey.ofSection? identity.key, identity.certificates.head?.bind Certificate.ofBytes? with
  | some key, some certificate => certificate.thirdVersion && certificate.publicKey = key
  | _, _ => false

end Identity

/-- Whether every certificate in a text can be used as that of an authority. -/
def areAuthorities (text : List UInt8) : Bool :=
  match Pem.sections? text with
  | none => false
  | some sections =>
    sections.all (fun part =>
      part.kind ≠ .certificate || (Certificate.ofBytes? part.content).isSome)

end InventoryQuery.Credentials

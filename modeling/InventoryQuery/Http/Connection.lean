import InventoryQuery.Config.Basic
import InventoryQuery.Credentials.Identity
import InventoryQuery.Files.System
import InventoryQuery.Http.Transport

/-!
# Servers of configurations

How a configuration leads to the server that it names. The files with certificates and the key are
read and checked first, then the URL.
-/

namespace InventoryQuery.Http

/-- The content of a file. -/
def readFile (system : Files.System) (path : RawText) : Except Error (List UInt8) :=
  match system.readBytes (.ofRaw path) with
  | .ok content => .ok content.toList
  | .error e => .error (.file e)

/-- Accept something only if it is there. -/
def requireSome {α : Type} : Option α → Except Error α
  | some value => .ok value
  | none => .error .exchange

/-- The identity that a configuration names. A key that is kept apart from the certificate follows
it in the text of the identity. -/
def identity (system : Files.System) (config : Config) :
    Except Error (Option Credentials.Identity) :=
  match config.cert, config.key with
  | none, none => .ok none
  | none, some _ => .error (.config .keyWithoutCertificate)
  | some cert, none => do
    let text ← readFile system cert
    return some (← requireSome (Credentials.Identity.ofText? text))
  | some cert, some key => do
    let text ← readFile system cert
    let keyText ← readFile system key
    return some (← requireSome (Credentials.Identity.ofText? (text ++ 10 :: keyText)))

/-- The text with the authorities that a configuration names. -/
def authorities (system : Files.System) (config : Config) : Except Error (List UInt8) :=
  match config.caCert with
  | none => .ok []
  | some path => readFile system path

/-- The server that a configuration names. -/
def Server.ofConfig (system : Files.System) (config : Config) : Except Error Server := do
  let identity ← identity system config
  let authorities ← authorities system config
  let usable := (identity.map Credentials.Identity.isUsable).getD true
  if usable && Credentials.areAuthorities authorities then
    let base ← (Url.parse config.url).mapError .url
    return ⟨base, config.apiVersion⟩
  else throw .exchange

end InventoryQuery.Http

import InventoryQuery.RawText

/-!
# Refused configurations

Why a configuration cannot be used, and the wording of the reason.
-/

namespace InventoryQuery.Config

/-- Why a configuration cannot be used. -/
inductive Error where
  /-- The text of the file at a path does not describe a configuration. -/
  | unreadable (path : RawText)
  /-- The configuration has no text form. -/
  | unwritable
  /-- A private key is configured but no certificate that it belongs to. -/
  | keyWithoutCertificate
  /-- There is no home directory to keep a configuration in. -/
  | noHomeDirectory
  deriving DecidableEq, Repr

/-- The wording of a reason. -/
def Error.message : Error → String
  | unreadable path => "Failed to parse " ++ path.shown
  | unwritable => "Failed to serialize config"
  | noHomeDirectory => "Could not determine home directory"
  | keyWithoutCertificate => "client key configured without a client certificate"

end InventoryQuery.Config

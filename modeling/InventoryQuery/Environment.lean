import InventoryQuery.Keyed
import InventoryQuery.RawText

/-!
# Environments

What a run of the program finds out about its user: the variables that are set, and the home
directory that the system has for the user.
-/

namespace InventoryQuery

/-- The values of the variables that are set, and the home directory that the system has for the
user, if it has one. -/
structure Environment where
  values : Keyed RawText := []
  userHome : Option RawText := none
  deriving DecidableEq, Repr

namespace Environment

/-- The value of a variable, if it is set. -/
def find? (environment : Environment) (name : String) : Option RawText :=
  Keyed.find? name environment.values

/-- The value of a variable, if it is set to a text. -/
def text? (environment : Environment) (name : String) : Option String :=
  (environment.find? name).bind RawText.text?

/-- The home directory: the one that the variable names, or else the one that the system has for the
user. An empty one counts for nothing. -/
def home? (environment : Environment) : Option RawText :=
  (environment.find? "HOME").filter (!·.isEmpty) <|> environment.userHome.filter (!·.isEmpty)

end Environment

end InventoryQuery

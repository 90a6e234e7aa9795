import InventoryQuery.Config.Basic
import InventoryQuery.Environment
import InventoryQuery.Error
import InventoryQuery.Files.System
import InventoryQuery.Text.Blank

/-!
# Stored configurations

Where a configuration is kept and how it is loaded and saved. The file is the one that
`PDQ_CONFIG` names, or else `pdq/config.toml` in the directory for configurations; a file that
does not exist stands for the defaults. The URL that `PUPPETDB_URL` holds takes the place of the
loaded one, unless it is blank.
-/

namespace InventoryQuery.Config

/-- The configuration in a file, or the defaults if the file does not exist. -/
def loadFrom (system : Files.System) (path : RawText) : Except InventoryQuery.Error Config :=
  let file := Files.Path.ofRaw path
  if system.exists file then
    match system.readText file with
    | .error e => .error (.file e)
    | .ok text =>
      match ofText? text with
      | some config => .ok config
      | none => .error (.config (.unreadable path))
  else .ok {}

/-- Save a configuration to a file, making the directories above it first. A configuration without a
text goes no further than that. -/
def saveTo (system : Files.System) (path : RawText) (config : Config) :
    Files.System × Except InventoryQuery.Error Unit :=
  let file := Files.Path.ofRaw path
  match config.toText? with
  | some text =>
    let (system, stored) := system.store file text.toUTF8
    (system, stored.mapError .file)
  | none =>
    let (system, made) := system.makeParent file
    (system, (made.mapError .file).bind fun _ => .error (.config .unwritable))

/-- The configuration with another URL, if there is one that is not blank. -/
def overrideUrl (config : Config) (url : Option String) : Config :=
  match url with
  | some url => if url.toList.all Text.isBlank then config else { config with url }
  | none => config

/-- The configuration with the URL that the environment asks for. -/
def withEnvironment (config : Config) (environment : Environment) : Config :=
  config.overrideUrl (environment.text? "PUPPETDB_URL")

/-- The directory for configurations where there is a home directory: the one that the environment
names by an absolute path, or else the one in the home directory. -/
def directory? (environment : Environment) : Option RawText :=
  environment.home?.map fun home =>
    ((environment.find? "XDG_CONFIG_HOME").filter (Files.Path.ofRaw · |>.absolute)).getD
      (Files.Path.append home ".config")

/-- The path of the configuration file where no other is named. Without a home directory it is taken
from the variable all the same, if that is set to a text. -/
def defaultPath? (environment : Environment) : Option RawText :=
  match directory? environment with
  | some directory => some (Files.Path.append (Files.Path.append directory "pdq") "config.toml")
  | none => (environment.text? "HOME").map (Files.Path.append · ".config/pdq/config.toml")

/-- The path of the configuration file. -/
def location (environment : Environment) : Except InventoryQuery.Error RawText :=
  match environment.text? "PDQ_CONFIG" with
  | some path => .ok path
  | none =>
    match defaultPath? environment with
    | some path => .ok path
    | none => .error (.config .noHomeDirectory)

/-- Load the configuration from its file and apply the environment to it. -/
def load (system : Files.System) (environment : Environment) :
    Except InventoryQuery.Error Config := do
  let path ← location environment
  let config ← loadFrom system path
  return config.withEnvironment environment

end InventoryQuery.Config

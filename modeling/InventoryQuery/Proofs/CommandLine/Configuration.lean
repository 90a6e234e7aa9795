import InventoryQuery.CommandLine.Run
import InventoryQuery.Proofs.Config.Stored

/-!
# Configurations of runs

Which file a run takes its configuration from, and what counts more than the file. There are two
ways to the file, by the command line and by the environment; both lead to the same configuration.
Only the URL may come from elsewhere.
-/

namespace InventoryQuery

namespace Config

/-- The URL that the environment asks for, if it holds one that is not blank. -/
def environmentUrl? (environment : Environment) : Option String :=
  (environment.text? "PUPPETDB_URL").filter fun url => !url.toList.all Text.isBlank

/-- The file that the environment names, if it names one by a text. -/
def namedFile? (environment : Environment) : Option RawText :=
  (environment.text? "PDQ_CONFIG").map RawText.ofText

/-- The file is the one that the environment names, or else the default one. -/
theorem location_eq (environment : Environment) :
    location environment =
      match namedFile? environment <|> defaultPath? environment with
      | some path => .ok path
      | none => .error (.config .noHomeDirectory) := by
  rw [location, namedFile?]
  cases environment.text? "PDQ_CONFIG" with
  | some path => rfl
  | none => cases defaultPath? environment <;> rfl

/-- The environment changes the URL only. -/
theorem withEnvironment_eq (config : Config) (environment : Environment) :
    config.withEnvironment environment =
      { config with url := (environmentUrl? environment).getD config.url } := by
  rw [withEnvironment, environmentUrl?]
  cases environment.text? "PUPPETDB_URL" with
  | none => rfl
  | some url =>
    rw [Option.filter_some]
    cases hblank : url.toList.all Text.isBlank <;> simp [overrideUrl, hblank]

/-- Where there is a file, it is loaded and the environment is applied. -/
theorem load_of_location {environment : Environment} {path : RawText}
    (hlocation : location environment = .ok path) (system : Files.System) :
    load system environment = (loadFrom system path).map (withEnvironment · environment) := by
  rw [load, hlocation]
  change (loadFrom system path).bind (fun config => .ok (config.withEnvironment environment)) = _
  cases loadFrom system path <;> rfl

/-- A configuration apart from its URL. -/
def exceptUrl (config : Config) : Config := { config with url := "" }

end Config

namespace CommandLine

/-- The file that a run takes its configuration from: the one that the command line names, or else
the one that the environment names, or else the default one. -/
def Target.file? (target : Target) (environment : Environment) : Option RawText :=
  target.config <|> Config.namedFile? environment <|> Config.defaultPath? environment

/-- The URL that a run asks for in place of that of the file: the one of the command line, or else
the one of the environment. -/
def Target.askedUrl? (target : Target) (environment : Environment) : Option String :=
  target.url <|> Config.environmentUrl? environment

variable {target : Target} {environment : Environment}

/-- Whichever way the file of a run is named, it is loaded and the environment is applied once. -/
theorem Target.loadedConfig_of_file? {path : RawText} (hfile : target.file? environment = some path)
    (files : Files.System) :
    target.loadedConfig files environment =
      (Config.loadFrom files path).map (Config.withEnvironment · environment) := by
  rw [Target.loadedConfig]
  cases hconfig : target.config with
  | some named =>
    obtain rfl : named = path := by simpa [Target.file?, hconfig] using hfile
    rfl
  | none =>
    have hnamed :
        (Config.namedFile? environment <|> Config.defaultPath? environment) = some path := by
      rw [Target.file?, hconfig] at hfile
      exact hfile
    exact Config.load_of_location (by rw [Config.location_eq, hnamed]) files

/-- The configuration of a run is that of its file, with the URL that is asked for. -/
theorem Target.effectiveConfig_of_file? {path : RawText}
    (hfile : target.file? environment = some path) (files : Files.System) :
    target.effectiveConfig files environment =
      (Config.loadFrom files path).map fun loaded =>
        { loaded with url := (target.askedUrl? environment).getD loaded.url } := by
  rw [Target.effectiveConfig, Target.loadedConfig_of_file? hfile]
  cases Config.loadFrom files path with
  | error e => rfl
  | ok loaded =>
    simp only [Except.map, Config.withEnvironment_eq, Target.askedUrl?]
    cases target.url <;> rfl

/-- Where no file is named and there is no home directory, a run has no configuration. -/
theorem Target.effectiveConfig_of_file?_eq_none (hfile : target.file? environment = none)
    (files : Files.System) :
    target.effectiveConfig files environment = .error (.config .noHomeDirectory) := by
  obtain ⟨hconfig, hnamed⟩ : target.config = none ∧
      (Config.namedFile? environment <|> Config.defaultPath? environment) = none := by
    cases hconfig : target.config with
    | some path => simp [Target.file?, hconfig] at hfile
    | none =>
      rw [Target.file?, hconfig] at hfile
      exact ⟨rfl, hfile⟩
  have hlocation : Config.location environment = .error (.config .noHomeDirectory) := by
    rw [Config.location_eq, hnamed]
  simp only [Target.effectiveConfig, Target.loadedConfig, hconfig, Config.load, hlocation]
  rfl

/-- The configuration of a run is that of one file, which the command line, the environment or the
home directory names in this order. It fails exactly when that file cannot be loaded. Its URL is
that of the command line, or else that of the environment unless it is blank, or else that of the
file; all else is as in the file, whatever URLs are asked for. It makes no difference how the file
is named. -/
theorem Target.effectiveConfig_isLayered (target : Target) (files : Files.System)
    (environment : Environment) :
    (∀ path, target.file? environment = some path →
      (∀ e, target.effectiveConfig files environment = .error e ↔
        Config.loadFrom files path = .error e) ∧
      ∀ loaded, Config.loadFrom files path = .ok loaded →
        target.effectiveConfig files environment =
          .ok { loaded with url := (target.askedUrl? environment).getD loaded.url }) ∧
    (target.file? environment = none →
      target.effectiveConfig files environment = .error (.config .noHomeDirectory)) ∧
    (∀ (url : Option String) (other : Environment),
      (∀ name, name ≠ "PUPPETDB_URL" → other.find? name = environment.find? name) →
        other.userHome = environment.userHome →
          (Target.effectiveConfig { target with url } files other).map Config.exceptUrl =
            (target.effectiveConfig files environment).map Config.exceptUrl) ∧
    ∀ (path : String) (other : Environment), target.config = none →
      environment.text? "PDQ_CONFIG" = some path →
        other.text? "PUPPETDB_URL" = environment.text? "PUPPETDB_URL" →
          Target.effectiveConfig { target with config := some (.ofText path) } files other =
            target.effectiveConfig files environment := by
  refine ⟨fun path hfile => ?_, fun hfile => target.effectiveConfig_of_file?_eq_none hfile files,
    fun url other hother hhome => ?_, fun path other hconfig hnamed hother => ?_⟩
  · rw [Target.effectiveConfig_of_file? hfile]
    exact ⟨fun e => map_eq_error_iff, fun loaded hloaded => by rw [hloaded]; rfl⟩
  · have hdefault : Config.defaultPath? other = Config.defaultPath? environment := by
      simp only [Config.defaultPath?, Config.directory?, Environment.home?, Environment.text?,
        hother "HOME" (by decide), hother "XDG_CONFIG_HOME" (by decide), hhome]
    have hnamed : Config.namedFile? other = Config.namedFile? environment := by
      simp only [Config.namedFile?, Environment.text?, hother "PDQ_CONFIG" (by decide)]
    have hsame : Target.file? { target with url } other = target.file? environment := by
      rw [Target.file?, Target.file?, hnamed, hdefault]
    cases hfile : target.file? environment with
    | none =>
      rw [Target.effectiveConfig_of_file?_eq_none hfile,
        Target.effectiveConfig_of_file?_eq_none (hsame.trans hfile)]
    | some path =>
      rw [Target.effectiveConfig_of_file? hfile,
        Target.effectiveConfig_of_file? (hsame.trans hfile)]
      cases Config.loadFrom files path <;> rfl
  · have hurl : Config.environmentUrl? other = Config.environmentUrl? environment := by
      rw [Config.environmentUrl?, Config.environmentUrl?, hother]
    have hfile : target.file? environment = some (.ofText path) := by
      rw [Target.file?, hconfig, Config.namedFile?, hnamed]
      rfl
    have hotherFile :
        Target.file? { target with config := some (.ofText path) } other = some (.ofText path) := rfl
    rw [Target.effectiveConfig_of_file? hfile, Target.effectiveConfig_of_file? hotherFile]
    simp only [Target.askedUrl?, hurl]

/-- A configuration that differs from the defaults. -/
def remoteConfig : Config := { url := "http://file/", timeoutSecs := 9, cert := some "client.pem" }

/-- The files with this configuration in one of them. -/
def remoteFiles : Files.System := (Config.saveTo {} "etc/pdq.toml" remoteConfig).1

/-- Variables that name this file and a URL. -/
def remoteVariables (url : String) : Environment :=
  { values := [("PDQ_CONFIG", "etc/pdq.toml"), ("PUPPETDB_URL", url)] }

/-- A variable that holds a URL. -/
def urlVariable (url : String) : Environment := { values := [("PUPPETDB_URL", url)] }

/-- The URL is taken from the command line, from the environment and from the file in this order;
the rest comes from the file, and a run that names it itself uses the same configuration. -/
theorem effectiveConfig_isLayered_remote :
    Target.effectiveConfig { url := some "http://line/" } remoteFiles (remoteVariables "http://env/") =
        .ok { remoteConfig with url := "http://line/" } ∧
      Target.effectiveConfig {} remoteFiles (remoteVariables "http://env/") =
        .ok { remoteConfig with url := "http://env/" } ∧
      Target.effectiveConfig {} remoteFiles (remoteVariables " \t") = .ok remoteConfig ∧
      Target.effectiveConfig { config := some "etc/pdq.toml" } remoteFiles
          (urlVariable " \t") =
        Target.effectiveConfig {} remoteFiles (remoteVariables " \t") ∧
      Target.effectiveConfig {} {} (urlVariable "http://env/") =
        .error (.config .noHomeDirectory) := by
  have hload : Config.loadFrom remoteFiles "etc/pdq.toml" = .ok remoteConfig :=
    Config.loadFrom_of_saveTo rfl
  have hlayers (target : Target) (url : String) :=
    target.effectiveConfig_isLayered remoteFiles (remoteVariables url)
  refine ⟨?_, ?_, ?_, ?_, ?_⟩
  · exact ((hlayers { url := some "http://line/" } "http://env/").1 "etc/pdq.toml" rfl).2 _ hload
  · exact ((hlayers {} "http://env/").1 "etc/pdq.toml" rfl).2 _ hload
  · exact ((hlayers {} " \t").1 "etc/pdq.toml" rfl).2 _ hload
  · exact (hlayers {} " \t").2.2.2 "etc/pdq.toml" (urlVariable " \t") rfl rfl rfl
  · exact (Target.effectiveConfig_isLayered {} {} (urlVariable "http://env/")).2.1 rfl

end CommandLine

end InventoryQuery

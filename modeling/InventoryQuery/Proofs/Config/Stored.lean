import InventoryQuery.Config.Store
import InventoryQuery.Proofs.Config.Fields
import InventoryQuery.Proofs.Files.Writing

/-!
# Saved configurations

A configuration that is saved is loaded back unchanged, right away and after any steps of which none
writes its file. Other files may be written on the way, directories made, other configurations
saved, with or without success, variables changed and configurations loaded.
-/

namespace InventoryQuery.Config

open Files (Path Place System)
open Files.System (Keeps)

/-- A configuration with a text is saved by storing the text. -/
theorem saveTo_of_toText? {config : Config} {text : String} (htext : config.toText? = some text)
    (system : System) (path : RawText) :
    saveTo system path config =
      ((system.store (.ofRaw path) text.toUTF8).1,
        (system.store (.ofRaw path) text.toUTF8).2.mapError .file) := by
  rw [saveTo, htext]

/-- A configuration without a text is not saved: only the directories above its file are made. -/
theorem saveTo_of_toText?_eq_none {config : Config} (htext : config.toText? = none)
    (system : System) (path : RawText) :
    (saveTo system path config).1 = (system.makeParent (.ofRaw path)).1 ∧
      (saveTo system path config).2 ≠ .ok () := by
  rw [saveTo, htext]
  refine ⟨rfl, ?_⟩
  cases hmade : (system.makeParent (.ofRaw path)).2 with
  | error e => simp [hmade, Except.mapError, Except.bind]
  | ok made => simp [hmade, Except.mapError, Except.bind]

/-- The files and the environment that a program finds. -/
structure Setting where
  files : System
  environment : Environment

/-- A step that may come between saving a configuration and loading it. -/
inductive Step where
  | save (path : RawText) (config : Config)
  | write (path : RawText) (content : ByteArray)
  | makeDirectories (path : RawText)
  | changeEnvironment (environment : Environment)
  | load
  | loadFrom (path : RawText)

/-- The setting after a step, whether or not it succeeds. -/
def Step.apply (setting : Setting) : Step → Setting
  | .save path config => { setting with files := (saveTo setting.files path config).1 }
  | .write path content => { setting with files := (setting.files.store (.ofRaw path) content).1 }
  | .makeDirectories path =>
    { setting with files := (setting.files.createDirectories (.ofRaw path)).1 }
  | .changeEnvironment environment => { setting with environment }
  | .load | .loadFrom _ => setting

/-- The place of the file that a step writes, if it writes one, whether or not there is room for all
of the content. -/
def Step.written? (setting : Setting) : Step → Option Place
  | .save path config =>
    if config.toText?.isSome then setting.files.storePlace? (.ofRaw path) else none
  | .write path _ => setting.files.storePlace? (.ofRaw path)
  | _ => none

/-- The setting after some steps. -/
def run (setting : Setting) (steps : List Step) : Setting := steps.foldl Step.apply setting

/-- None of some steps writes the file at a place. -/
def SparedBy (place : Place) : Setting → List Step → Prop
  | _, [] => True
  | setting, step :: steps =>
    step.written? setting ≠ some place ∧ SparedBy place (step.apply setting) steps

/-- Whether some steps spare a file is found out by taking them. -/
instance decidableSparedBy (place : Place) :
    (setting : Setting) → (steps : List Step) → Decidable (SparedBy place setting steps)
  | _, [] => inferInstanceAs (Decidable True)
  | setting, step :: steps =>
    have := decidableSparedBy place (step.apply setting) steps
    inferInstanceAs (Decidable (step.written? setting ≠ some place ∧
      SparedBy place (step.apply setting) steps))

/-- A file that is stored elsewhere, or not at all, keeps the file at a place. -/
theorem keeps_store {system : System} {path : Path} {place : Place}
    (h : system.storePlace? path ≠ some place) (content : ByteArray) :
    Keeps (· = place) system (system.store path content).1 :=
  Files.System.keeps_store
    (fun written hwritten (hsame : written = place) => h (hsame ▸ hwritten)) content

/-- A step that does not write the file at a place keeps it. -/
theorem Step.keeps {place : Place} {setting : Setting} {step : Step}
    (h : step.written? setting ≠ some place) :
    Keeps (· = place) setting.files (step.apply setting).files := by
  cases step with
  | save path config =>
    cases htext : config.toText? with
    | none =>
      rw [apply, (saveTo_of_toText?_eq_none htext setting.files path).1]
      exact Files.System.keeps_makeParent setting.files (.ofRaw path)
    | some text =>
      rw [apply, saveTo_of_toText? htext]
      exact keeps_store (by simpa [written?, htext] using h) text.toUTF8
  | write path content => exact keeps_store h content
  | makeDirectories path =>
    exact (Files.System.addsDirectories_createDirectories setting.files (.ofRaw path)).keeps
  | changeEnvironment environment => exact Keeps.refl _ setting.files
  | load => exact Keeps.refl _ setting.files
  | loadFrom path => exact Keeps.refl _ setting.files

/-- Steps of which none writes the file at a place keep it. -/
theorem SparedBy.keeps {place : Place} {setting : Setting} {steps : List Step}
    (h : SparedBy place setting steps) :
    Keeps (· = place) setting.files (run setting steps).files := by
  induction steps generalizing setting with
  | nil => exact Keeps.refl _ setting.files
  | cons step steps ih => exact (step.keeps h.1).trans (ih h.2)

/-- A configuration is loaded from a file with its text. -/
theorem loadFrom_eq_ok {system : System} {path : RawText} {text : String} {place : Place}
    {config : Config} (hresolve : system.resolve (.ofRaw path) = .ok place)
    (hpath : (Path.ofRaw path).isDirectory = false)
    (hfile : system.entry? place = some (.file text.toUTF8)) (htext : config.toText? = some text) :
    loadFrom system path = .ok config := by
  have hread := Files.System.readText_eq_ok hresolve hpath hfile
  exact loadFrom_of_readText hread (ofText?_of_toText? htext)

/-- What a successful save leaves: a file with the text of the configuration at the place of its
path. -/
theorem exists_file_of_saveTo {system : System} {path : RawText} {config : Config}
    (hsave : (saveTo system path config).2 = .ok ()) :
    ∃ place text, (saveTo system path config).1.resolve (.ofRaw path) = .ok place ∧
      (Path.ofRaw path).isDirectory = false ∧ config.toText? = some text ∧
      System.entry? (saveTo system path config).1 place = some (.file text.toUTF8) := by
  cases htext : config.toText? with
  | none => exact absurd hsave (saveTo_of_toText?_eq_none htext system path).2
  | some text =>
    rw [saveTo_of_toText? htext] at hsave ⊢
    obtain ⟨place, hresolve, hpath, hfile⟩ := Files.System.store_eq_ok (mapError_eq_ok_iff.mp hsave)
    exact ⟨place, text, hresolve, hpath, rfl, hfile⟩

/-- A configuration that is saved is loaded back unchanged right away. -/
theorem loadFrom_of_saveTo {system : System} {path : RawText} {config : Config}
    (hsave : (saveTo system path config).2 = .ok ()) :
    loadFrom (saveTo system path config).1 path = .ok config := by
  obtain ⟨place, text, hresolve, hpath, htext, hfile⟩ := exists_file_of_saveTo hsave
  exact loadFrom_eq_ok hresolve hpath hfile htext

/-- A configuration that is saved is loaded back unchanged, after any steps that do not write its
file. -/
theorem loadFrom_run_of_saveTo {system : System} {path : RawText} {config : Config}
    (hsave : (saveTo system path config).2 = .ok ()) :
    ∃ place, (saveTo system path config).1.resolve (.ofRaw path) = .ok place ∧
      ∀ (environment : Environment) (steps : List Step),
        SparedBy place ⟨(saveTo system path config).1, environment⟩ steps →
          loadFrom (run ⟨(saveTo system path config).1, environment⟩ steps).files path =
            .ok config := by
  obtain ⟨place, text, hresolve, hpath, htext, hfile⟩ := exists_file_of_saveTo hsave
  refine ⟨place, hresolve, fun environment steps hspared => ?_⟩
  have hkeeps := hspared.keeps
  exact loadFrom_eq_ok (hkeeps.resolve_eq_ok hresolve) hpath
    ((hkeeps.file_iff rfl text.toUTF8).mpr hfile) htext

/-- A configuration with texts for every form of a string. -/
def intricate : Config where
  url := "\"'\n"
  apiVersion := "'''\r\"\\\x07"
  timeoutSecs := 0
  cert := some ""
  key := some "a\\b"
  caCert := some "\n'\"\"\""

/-- Steps of every kind, none of which writes the file `etc/pdq.toml`: the first one fails to save
to it for want of a text, and the third one to write below it. -/
def elsewhere : List Step :=
  [.save "etc/pdq.toml" { timeoutSecs := Nat.pow 2 63 }, .save "etc/../other.toml" {},
    .write "etc/pdq.toml/below" .empty, .makeDirectories "var/log",
    .changeEnvironment { values := [("PDQ_CONFIG", "other.toml")] }, .load,
    .loadFrom "etc/pdq.toml"]

/-- The intricate configuration is loaded back after the steps elsewhere. -/
theorem loadFrom_run_of_saveTo_intricate :
    let saved : System := (saveTo {} "etc/pdq.toml" intricate).1
    (saveTo {} "etc/pdq.toml" intricate).2 = .ok () ∧
      SparedBy ["etc", "pdq.toml"] ⟨saved, {}⟩ elsewhere ∧
        loadFrom (run ⟨saved, {}⟩ elsewhere).files "etc/pdq.toml" = .ok intricate := by
  intro saved
  have hsave : (saveTo {} "etc/pdq.toml" intricate).2 = .ok () := by rfl
  have hplace : saved.resolve (.ofRaw "etc/pdq.toml") = .ok ["etc", "pdq.toml"] := by rfl
  have hspared : SparedBy ["etc", "pdq.toml"] ⟨saved, {}⟩ elsewhere := by decide +kernel
  obtain ⟨place, hresolve, hload⟩ := loadFrom_run_of_saveTo hsave
  obtain rfl : place = ["etc", "pdq.toml"] := Except.ok.inj (hresolve.symm.trans hplace)
  exact ⟨hsave, hspared, hload {} elsewhere hspared⟩

end InventoryQuery.Config

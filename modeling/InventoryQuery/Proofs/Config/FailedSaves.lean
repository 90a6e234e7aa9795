import InventoryQuery.Proofs.Config.Stored

/-!
# Failed saves

A save that fails leaves every file as it was, unless it has come so far as to write: where there is
no room for all of the text, the file of the path is left with the beginning of it. The directories
above the path are made first, so some of them may have come about; where one of them stands now, no
defaults are found any more. Whether there is a text to write depends on the number of seconds and
on the paths that the configuration names.
-/

namespace InventoryQuery.Config

open Files (Path Place System)
open Files.System (IsNewDirectory Keeps)

variable {before made after : System} {path : Path} {place : Place}

/-- What a failed save to a path leaves of a file system, but for the file at which a write has
broken off, if one has. No other file changes, comes about or goes away, and what else comes about
is directories above the path. Loading gives what it gave for every path that does not lead to the
broken file, unless nothing was there and the path leads to or through one of the new directories. -/
structure IsSpared (path : Path) (broken : Option Place) (before after : System) : Prop where
  file_iff : ∀ place, broken ≠ some place → ∀ content,
    after.entry? place = some (.file content) ↔ before.entry? place = some (.file content)
  entry?_eq_or : ∀ place, broken ≠ some place → after.entry? place = before.entry? place ∨
    IsNewDirectory before after place ∧
      ∃ parent, path.parent? = some parent ∧ after.LeadsThrough parent place
  loadFrom_eq_or : ∀ other, loadFrom after other = loadFrom before other ∨
    (before.exists (.ofRaw other) = false ∧
      ∃ place, after.LeadsThrough (.ofRaw other) place ∧ IsNewDirectory before after place) ∨
    ∃ place, broken = some place ∧ after.resolve (.ofRaw other) = .ok place

/-- A write of a configuration to a path has broken off: there is no room for all of the text, and
the file that the path leads to holds the beginning of it. -/
structure IsBrokenOff (path : Path) (config : Config) (after : System) (place : Place) : Prop where
  resolve_eq : after.resolve path = .ok place
  exists_room : ∃ text room, config.toText? = some text ∧ after.room? place = some room ∧
    room < text.toUTF8.size ∧ after.entry? place = some (.file (text.toUTF8.extract 0 room))

/-- What is loaded from a path depends on what the path finds. -/
theorem loadFrom_congr {other : RawText}
    (h : after.lookup (.ofRaw other) = before.lookup (.ofRaw other)) :
    loadFrom after other = loadFrom before other := by
  have hexists : after.exists (.ofRaw other) = before.exists (.ofRaw other) := by
    rw [System.exists, System.exists, h]
  have hread : after.readText (.ofRaw other) = before.readText (.ofRaw other) := by
    rw [System.readText, System.readText, System.readBytes, System.readBytes, h]
  simp only [loadFrom, hexists, hread]

/-- The defaults are loaded where nothing is found. -/
theorem loadFrom_of_not_exists {system : System} {other : RawText}
    (h : system.exists (.ofRaw other) = false) : loadFrom system other = .ok {} := by
  simp only [loadFrom, h, Bool.false_eq_true, if_false]

/-- Making the directories above a path spares everything. -/
theorem isSpared_makeParent (system : System) (path : Path) :
    IsSpared path none system (system.makeParent path).1 := by
  cases hparent : path.parent? with
  | none =>
    have hnothing : (system.makeParent path).1 = system := by rw [System.makeParent, hparent]
    rw [hnothing]
    exact ⟨fun _ _ _ => Iff.rfl, fun _ _ => .inl rfl, fun _ => .inl rfl⟩
  | some parent =>
    have hmade : (system.makeParent path).1 = (system.createDirectories parent).1 := by
      rw [System.makeParent, hparent]
    have hadds := Files.System.addsDirectories_createDirectories system parent
    have hkeeps : Keeps (fun _ => True) system (system.createDirectories parent).1 := hadds.keeps
    rw [hmade]
    refine ⟨fun place _ => hkeeps.file_iff trivial, fun place _ => ?_, fun other => ?_⟩
    · exact (hadds.entry?_eq_or place).imp_right fun hnew => ⟨hnew.1, parent, hparent, hnew.2⟩
    · exact (hadds.lookup_eq_or (.ofRaw other)).imp loadFrom_congr .inl

/-- A new directory is still new after a change that keeps directories. -/
theorem isNewDirectory_of_keeps {kept : Place → Prop} (hkeeps : Keeps kept made after)
    (h : IsNewDirectory before made place) : IsNewDirectory before after place :=
  ⟨h.free, hkeeps.directory h.made⟩

/-- Where everything has been spared, a file that is put where no directory stands spares everything
but the file of its place. -/
theorem IsSpared.put_file (h : IsSpared path none before made)
    (hfree : made.entry? place ≠ some .directory) (content : ByteArray) :
    IsSpared path (some place) before (made.put place (.file content)) := by
  have hroot := Files.System.ne_nil_of_not_directory hfree
  have hkeeps : Keeps (· ≠ place) made (made.put place (.file content)) :=
    Files.System.keeps_put_file hfree (not_not_intro rfl) content
  refine ⟨fun other hother old => ?_, fun other hother => ?_, fun other => ?_⟩
  · have hne : other ≠ place := fun hsame => hother (hsame ▸ rfl)
    exact (hkeeps.file_iff hne old).trans (h.file_iff other nofun old)
  · have hne : other ≠ place := fun hsame => hother (hsame ▸ rfl)
    have hsame : System.entry? (made.put place (.file content)) other = made.entry? other := by
      rw [Files.System.entry?_put made hroot, if_neg hne]
    rw [hsame]
    refine (h.entry?_eq_or other nofun).imp_right ?_
    rintro ⟨hnew, parent, hparent, hleads⟩
    exact ⟨isNewDirectory_of_keeps hkeeps hnew, parent, hparent, hleads.mono hkeeps⟩
  · rcases Files.System.lookup_put_file_eq_or hfree content (.ofRaw other) with
      hlookup | ⟨hmade, hafter⟩ | hresolve
    · rw [loadFrom_congr hlookup]
      rcases h.loadFrom_eq_or other with hsame | ⟨hmissing, reached, hleads, hnew⟩ | ⟨_, hnone, _⟩
      · exact .inl hsame
      · exact .inr (.inl
          ⟨hmissing, reached, hleads.mono hkeeps, isNewDirectory_of_keeps hkeeps hnew⟩)
      · exact absurd hnone nofun
    · rw [loadFrom_of_not_exists hafter, ← loadFrom_of_not_exists hmade]
      rcases h.loadFrom_eq_or other with hsame | ⟨hmissing, -⟩ | ⟨_, hnone, _⟩
      · exact .inl hsame
      · exact .inl ((loadFrom_of_not_exists hmade).trans (loadFrom_of_not_exists hmissing).symm)
      · exact absurd hnone nofun
    · exact .inr (.inr ⟨place, rfl, hresolve⟩)

/-- Storing a text that fails has made the directories above the path and nothing else, or it has
broken off. -/
theorem isSpared_store_of_error {system : System} {path : Path} {config : Config} {text : String}
    {e : Files.Error} (htext : config.toText? = some text)
    (h : (system.store path text.toUTF8).2 = .error e) :
    IsSpared path none system (system.store path text.toUTF8).1 ∨
      e = .noSpace ∧ ∃ place,
        IsBrokenOff path config (system.store path text.toUTF8).1 place ∧
          IsSpared path (some place) system (system.store path text.toUTF8).1 := by
  have hspared := isSpared_makeParent system path
  rcases Files.System.store_cases system path text.toUTF8 with
    ⟨-, hmade, -⟩ | ⟨place, -, hwrite, hfill⟩
  · rw [hmade]
    exact .inl hspared
  · obtain ⟨hresolve, hfree, -⟩ := Files.System.writePlace_eq_ok hwrite
    have hkeeps : Keeps (fun _ => False) (system.makeParent path).1
        (system.store path text.toUTF8).1 := by
      rw [hfill]
      exact Files.System.keeps_fill hfree id text.toUTF8
    have hroot := Files.System.ne_nil_of_not_directory hfree
    rw [hfill] at h
    obtain ⟨rfl, room, hroom, hless, hput⟩ := Files.System.fst_fill_of_error h
    refine .inr ⟨rfl, place, ⟨hkeeps.resolve_eq_ok hresolve, text, room, htext, ?_, hless, ?_⟩, ?_⟩
    · rw [hkeeps.conditions_eq, hroom]
    · rw [hfill, hput, Files.System.entry?_put _ hroot, if_pos rfl]
    · rw [hfill, hput]
      exact hspared.put_file hfree _

/-- A path has no line exactly when it is no text. -/
theorem pathLine?_eq_none_iff {key : String} {path : Option RawText} :
    pathLine? key path = none ↔ ∃ raw ∈ path, raw.text? = none := by
  cases path <;> simp [pathLine?]

/-- A configuration has no text exactly when the number of seconds is too great or a path is no
text. -/
theorem toText?_eq_none_iff (config : Config) :
    config.toText? = none ↔
      Nat.pow 2 63 - 1 < config.timeoutSecs ∨ ∃ path ∈ config.paths, path.text? = none := by
  have hseconds : Nat.pow 2 63 - 1 < config.timeoutSecs ↔
      Toml.naturalLiteral? config.timeoutSecs = none := by
    rw [Toml.naturalLiteral?, Toml.maxInteger]
    split
    · next h => simpa using h
    · next h => simpa using h
  have hpaths : (∃ path ∈ config.paths, path.text? = none) ↔
      pathLine? "cert" config.cert = none ∨ pathLine? "key" config.key = none ∨
        pathLine? "ca_cert" config.caCert = none := by
    simp only [pathLine?_eq_none_iff]
    simp [paths, or_and_right, exists_or, eq_comm]
  rw [hpaths, hseconds, toText?]
  cases Toml.naturalLiteral? config.timeoutSecs <;> cases pathLine? "cert" config.cert <;>
    cases pathLine? "key" config.key <;> cases pathLine? "ca_cert" config.caCert <;> simp

/-- A save that fails spares all files, for whatever reason it fails, but for the file of its path
where the write breaks off for want of room. If the directories above the path can be made, it is
for want of a text exactly when the number of seconds is too great or a path is no text. -/
theorem saveTo_sparesFiles (system : System) (path : RawText) (config : Config) :
    (∀ e, (saveTo system path config).2 = .error e →
      IsSpared (.ofRaw path) none system (saveTo system path config).1 ∨
        e = .file .noSpace ∧ ∃ place,
          IsBrokenOff (.ofRaw path) config (saveTo system path config).1 place ∧
            IsSpared (.ofRaw path) (some place) system (saveTo system path config).1) ∧
    ((system.makeParent (.ofRaw path)).2 = .ok () →
      ((saveTo system path config).2 = .error (.config .unwritable) ↔
        Nat.pow 2 63 - 1 < config.timeoutSecs ∨ ∃ named ∈ config.paths, named.text? = none)) := by
  rw [← toText?_eq_none_iff]
  cases htext : config.toText? with
  | none =>
    rw [(saveTo_of_toText?_eq_none htext system path).1]
    refine ⟨fun e _ => .inl (isSpared_makeParent system (.ofRaw path)), fun hparent => ?_⟩
    simp [saveTo, htext, hparent, Except.mapError, Except.bind]
  | some text =>
    rw [saveTo_of_toText? htext]
    refine ⟨fun e h => ?_, fun _ => ?_⟩
    · obtain ⟨reason, hreason, rfl⟩ := mapError_eq_error_iff.mp h
      exact (isSpared_store_of_error htext hreason).imp_right fun hbroken =>
        ⟨congrArg InventoryQuery.Error.file hbroken.1, hbroken.2⟩
    · simp [mapError_eq_error_iff]

/-- A configuration with too great a number of seconds. -/
def patient : Config := { timeoutSecs := Nat.pow 2 63 }

/-- The patient configuration cannot be saved to a new directory; what was saved before is loaded as
before. -/
theorem saveTo_sparesFiles_patient :
    let before : System := (saveTo {} "etc/pdq.toml" {}).1
    let after : System := (saveTo before "etc/more/pdq.toml" patient).1
    (saveTo before "etc/more/pdq.toml" patient).2 = .error (.config .unwritable) ∧
      IsSpared (.ofRaw "etc/more/pdq.toml") none before after ∧
      loadFrom after "etc/pdq.toml" = .ok {} := by
  intro before after
  have hmade : (before.makeParent (.ofRaw "etc/more/pdq.toml")).2 = .ok () := rfl
  have hsaved : loadFrom before "etc/pdq.toml" = .ok {} := loadFrom_of_saveTo rfl
  have hthere : before.exists (.ofRaw "etc/pdq.toml") = true := rfl
  obtain ⟨hspares, hunwritable⟩ := saveTo_sparesFiles before "etc/more/pdq.toml" patient
  have herror := (hunwritable hmade).mpr (.inl (by decide))
  have hspared : IsSpared (.ofRaw "etc/more/pdq.toml") none before after :=
    (hspares _ herror).resolve_right fun hbroken => absurd hbroken.1 nofun
  refine ⟨herror, hspared, ?_⟩
  rcases hspared.loadFrom_eq_or "etc/pdq.toml" with hsame | ⟨hmissing, -⟩ | ⟨_, hnone, -⟩
  · rw [hsame, hsaved]
  · exact absurd (hthere.symm.trans hmissing) (by decide)
  · exact absurd hnone nofun

/-- A file system with one file, and no room for any content. -/
def crammed : System where
  entries := [(["pdq.toml"], .file "url = ''".toUTF8)]
  room? := fun _ => some 0

/-- Not every path loads as before after a failed save: the defaults are found where nothing stands,
but not where a directory above the path of the configuration has been made. Not every file is as
before: one for which there is no room is left empty. And not only too great a number of seconds
leaves a configuration without a text: a path that is no text does so too. -/
theorem not_forall_loadFrom_eq :
    (¬ ∀ (system : System) (path : RawText) (config : Config) (e : InventoryQuery.Error),
      (saveTo system path config).2 = .error e →
        ∀ other, loadFrom (saveTo system path config).1 other = loadFrom system other) ∧
    (¬ ∀ (system : System) (path : RawText) (config : Config) (e : InventoryQuery.Error),
      (saveTo system path config).2 = .error e → ∀ place content,
        system.entry? place = some (.file content) →
          System.entry? (saveTo system path config).1 place = some (.file content)) ∧
    ¬ ∀ (system : System) (path : RawText) (config : Config),
      (system.makeParent (.ofRaw path)).2 = .ok () →
        ((saveTo system path config).2 = .error (.config .unwritable) ↔
          Nat.pow 2 63 - 1 < config.timeoutSecs) := by
  refine ⟨fun h => ?_, fun h => ?_, fun h => ?_⟩
  · have hsame := h {} "new/pdq.toml" patient (.config .unwritable) rfl "new"
    have hbefore : loadFrom {} "new" = .ok {} := rfl
    have hafter :
        loadFrom (saveTo {} "new/pdq.toml" patient).1 "new" = .error (.file .isADirectory) := rfl
    rw [hbefore, hafter] at hsame
    exact absurd hsame (by simp)
  · have hsame := h crammed "pdq.toml" {} (.file .noSpace) rfl ["pdq.toml"] _ rfl
    have hafter : System.entry? (saveTo crammed "pdq.toml" {}).1 ["pdq.toml"] =
        some (.file .empty) := rfl
    rw [hafter] at hsame
    injection hsame with hentry
    injection hentry with hcontent
    exact absurd (congrArg ByteArray.size hcontent) (by decide)
  · have hseconds := (h {} "pdq.toml" { cert := some ⟨[255]⟩ } rfl).mp rfl
    exact absurd hseconds (by decide)

end InventoryQuery.Config

import InventoryQuery.Files.System

/-!
# What file operations leave alone

Putting a directory where nothing stands changes no file and no directory, and putting a file where
no directory stands changes no other file and no directory. So whatever is put elsewhere, a path
leads to the same place afterwards, and a file at that place still has its content.
-/

namespace InventoryQuery.Files

namespace System

/-- After something is put at a place other than the root, it stands there, and what stands
elsewhere is as before. -/
theorem entry?_put (system : System) {place : Place} (hplace : place ≠ []) (entry : Entry)
    (other : Place) :
    entry? (system.put place entry) other =
      if other = place then some entry else system.entry? other := by
  by_cases hroot : other = []
  · rw [hroot, if_neg hplace.symm]
    rfl
  · by_cases hsame : other = place
    · subst hsame
      simp [put, entry?, hroot]
    · have hlook : (fun pair : Place × Entry =>
          !decide (pair.1 = place) && decide (pair.1 = other)) =
            fun pair : Place × Entry => decide (pair.1 = other) := by
        funext pair
        by_cases hpair : pair.1 = other
        · simp [hpair, hsame]
        · simp [hpair]
      simp [put, entry?, hroot, hsame, Ne.symm hsame, hlook]

/-- A place where no directory stands is not the root. -/
theorem ne_nil_of_not_directory {system : System} {place : Place}
    (hfree : system.entry? place ≠ some .directory) : place ≠ [] := by
  rintro rfl
  exact hfree rfl

/-- A file system arises from another without a loss of directories and without a change to the
files at some places: none of them changes its content, comes about or goes away. The conditions
stay the same. -/
structure Keeps (kept : Place → Prop) (before after : System) : Prop where
  conditions_eq : after.toConditions = before.toConditions
  directory : ∀ {place}, before.entry? place = some .directory →
    after.entry? place = some .directory
  file_iff : ∀ {place}, kept place → ∀ content,
    after.entry? place = some (.file content) ↔ before.entry? place = some (.file content)

variable {kept : Place → Prop} {before middle after : System}

/-- A file system keeps its own directories and files. -/
theorem Keeps.refl (kept : Place → Prop) (system : System) : Keeps kept system system :=
  ⟨rfl, id, fun _ _ => Iff.rfl⟩

/-- Two changes after each other keep what both of them keep. -/
theorem Keeps.trans (hfirst : Keeps kept before middle) (hsecond : Keeps kept middle after) :
    Keeps kept before after where
  conditions_eq := hsecond.conditions_eq.trans hfirst.conditions_eq
  directory h := hsecond.directory (hfirst.directory h)
  file_iff hplace content := (hsecond.file_iff hplace content).trans (hfirst.file_iff hplace content)

/-- A directory that is put where nothing stands keeps everything. -/
theorem keeps_put_directory {place : Place} (hfree : before.entry? place = none) :
    Keeps kept before (before.put place .directory) := by
  have hclear : before.entry? place ≠ some .directory := by simp [hfree]
  have hroot := ne_nil_of_not_directory hclear
  refine ⟨rfl, fun {other} hother => ?_, fun {other} _ content => ?_⟩
  · rw [entry?_put before hroot]
    split
    · rfl
    · exact hother
  · rw [entry?_put before hroot]
    split
    · next hsame => rw [hsame, hfree]; simp
    · exact Iff.rfl

/-- A file that is put where no directory stands keeps the directories and all other files. -/
theorem keeps_put_file {place : Place} (hfree : before.entry? place ≠ some .directory)
    (hplace : ¬ kept place) (content : ByteArray) :
    Keeps kept before (before.put place (.file content)) := by
  have hroot := ne_nil_of_not_directory hfree
  refine ⟨rfl, fun {other} hother => ?_, fun {other} hkept old => ?_⟩
  · have hne : other ≠ place := by
      rintro rfl
      exact hfree hother
    rw [entry?_put before hroot, if_neg hne]
    exact hother
  · have hne : other ≠ place := by
      rintro rfl
      exact hplace hkept
    rw [entry?_put before hroot, if_neg hne]

/-- A directory is required where one stands. -/
theorem requireDirectory_eq_ok_iff {system : System} {place : Place} :
    system.requireDirectory place = .ok () ↔ system.entry? place = some .directory := by
  rw [requireDirectory]
  cases hentry : system.entry? place with
  | none => simp
  | some entry => cases entry <;> simp

/-- Names that lead to a place still do. -/
theorem Keeps.walk_eq_ok (h : Keeps kept before after) {names : List RawText} {start place : Place}
    (hwalk : before.walk start names = .ok place) : after.walk start names = .ok place := by
  induction names generalizing start with
  | nil => exact hwalk
  | cons name names ih =>
    rw [walk] at hwalk ⊢
    cases hrequired : before.requireDirectory start with
    | error e => simp [hrequired] at hwalk
    | ok _ =>
      have hdirectory := h.directory (requireDirectory_eq_ok_iff.mp hrequired)
      rw [requireDirectory_eq_ok_iff.mpr hdirectory]
      simp only [hrequired] at hwalk ⊢
      split at hwalk
      · exact absurd hwalk (by simp)
      · next hname =>
        rw [if_neg hname]
        exact ih hwalk

/-- A path leads nowhere in all file systems for the same reason, or where its names lead. -/
theorem resolve_eq_or (path : Path) :
    (∃ e, ∀ system : System, system.resolve path = .error e) ∨
      ∀ system : System, system.resolve path = system.walk (system.start path) path.names := by
  by_cases hnul : holdsNul path = true
  · exact .inl ⟨.nulInName, fun system => by rw [resolve, if_pos hnul]⟩
  · by_cases hempty : path.isEmpty = true
    · exact .inl ⟨.notFound, fun system => by rw [resolve, if_neg hnul, if_pos hempty]⟩
    · exact .inr fun system => by rw [resolve, if_neg hnul, if_neg hempty]

/-- A path that leads to a place still does. -/
theorem Keeps.resolve_eq_ok (h : Keeps kept before after) {path : Path} {place : Place}
    (hresolve : before.resolve path = .ok place) : after.resolve path = .ok place := by
  rcases resolve_eq_or path with ⟨e, hfails⟩ | hwalks
  · rw [hfails] at hresolve
    exact absurd hresolve (by simp)
  · have hstart : after.start path = before.start path := by
      rw [start, start, h.conditions_eq]
    rw [hwalks] at hresolve ⊢
    rw [hstart]
    exact h.walk_eq_ok hresolve

/-- What stands at the place of a path that is not one of a directory is found there. -/
theorem lookup_eq_ok {system : System} {path : Path} {place : Place} {entry : Entry}
    (hresolve : system.resolve path = .ok place) (hpath : path.isDirectory = false)
    (hentry : system.entry? place = some entry) : system.lookup path = .ok (place, entry) := by
  simp [lookup, hresolve, hentry, hpath]

/-- A text that stands at the place of a path can be read. -/
theorem readText_eq_ok {system : System} {path : Path} {place : Place} {text : String}
    (hresolve : system.resolve path = .ok place) (hpath : path.isDirectory = false)
    (hfile : system.entry? place = some (.file text.toUTF8)) : system.readText path = .ok text := by
  have hlookup := lookup_eq_ok hresolve hpath hfile
  rw [readText, readBytes, hlookup]
  simp only [Text.fromUTF8?_toUTF8]

/-- What can be read exists. -/
theorem exists_of_readText {system : System} {path : Path} {text : String}
    (h : system.readText path = .ok text) : system.exists path = true := by
  rw [«exists»]
  cases hlookup : system.lookup path with
  | ok found => rfl
  | error e => simp [readText, readBytes, hlookup] at h

end System

end InventoryQuery.Files

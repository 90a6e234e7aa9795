import InventoryQuery.Proofs.Files.Frame
import InventoryQuery.Proofs.Results

/-!
# Making directories

Making the directories of a path adds directories to or through which the path leads, where nothing
stood before, and does nothing else. So a path comes to lead elsewhere only if nothing stood where
it led, and only if it leads to or through one of the new directories now.
-/

namespace InventoryQuery.Files

namespace System

variable {before middle after : System} {path : Path}

/-- A path leads to a place or through it. -/
def LeadsThrough (system : System) (path : Path) (place : Place) : Prop :=
  ∃ names, names <+: path.names ∧ system.walk (system.start path) names = .ok place

/-- A directory comes to stand at a place where nothing stood. -/
structure IsNewDirectory (before after : System) (place : Place) : Prop where
  free : before.entry? place = none
  made : after.entry? place = some .directory

/-- A file system arises from another by new directories to or through which a path leads. -/
structure AddsDirectories (path : Path) (before after : System) : Prop where
  conditions_eq : after.toConditions = before.toConditions
  entry?_eq_or : ∀ place, after.entry? place = before.entry? place ∨
    IsNewDirectory before after place ∧ after.LeadsThrough path place

/-- A file system that gains new directories only keeps all that it holds. -/
theorem AddsDirectories.keeps (h : AddsDirectories path before after) {kept : Place → Prop} :
    Keeps kept before after := by
  refine ⟨h.conditions_eq, fun {place} hdirectory => ?_, fun {place} _ content => ?_⟩
  · rcases h.entry?_eq_or place with hsame | ⟨hnew, -⟩
    · rw [hsame, hdirectory]
    · exact hnew.made
  · rcases h.entry?_eq_or place with hsame | ⟨hnew, -⟩
    · rw [hsame]
    · simp [hnew.free, hnew.made]

/-- A path still leads to and through the places that it led to and through. -/
theorem LeadsThrough.mono {kept : Place → Prop} (hkeeps : Keeps kept before after) {place : Place}
    (h : before.LeadsThrough path place) : after.LeadsThrough path place := by
  obtain ⟨names, hnames, hwalk⟩ := h
  refine ⟨names, hnames, hkeeps.walk_eq_ok ?_⟩
  rwa [start, hkeeps.conditions_eq]

/-- A path leads through the places to or through which its parent leads. -/
theorem LeadsThrough.of_parent {system : System} {parent : Path} {place : Place}
    (hparent : path.parent? = some parent) (h : system.LeadsThrough parent place) :
    system.LeadsThrough path place := by
  rw [Path.parent?] at hparent
  split at hparent
  · exact absurd hparent (by simp)
  · obtain rfl := Option.some.inj hparent
    obtain ⟨names, hnames, hwalk⟩ := h
    exact ⟨names, hnames.trans (List.dropLast_prefix _), hwalk⟩

/-- A path leads to the place that it resolves to. -/
theorem leadsThrough_of_resolve {system : System} {place : Place}
    (hresolve : system.resolve path = .ok place) : system.LeadsThrough path place := by
  rcases resolve_eq_or path with ⟨e, hfails⟩ | hwalks
  · rw [hfails] at hresolve
    exact absurd hresolve (by simp)
  · rw [hwalks] at hresolve
    exact ⟨path.names, List.prefix_refl _, hresolve⟩

/-- A file system gains nothing by being left alone. -/
theorem AddsDirectories.refl (path : Path) (system : System) : AddsDirectories path system system :=
  ⟨rfl, fun _ => .inl rfl⟩

/-- New directories may be added one after the other. -/
theorem AddsDirectories.trans (hfirst : AddsDirectories path before middle)
    (hsecond : AddsDirectories path middle after) : AddsDirectories path before after where
  conditions_eq := hsecond.conditions_eq.trans hfirst.conditions_eq
  entry?_eq_or place := by
    rcases hfirst.entry?_eq_or place with hfirstSame | ⟨hfirstNew, hleads⟩
    · rcases hsecond.entry?_eq_or place with hsame | ⟨hnew, hleads⟩
      · exact .inl (hsame.trans hfirstSame)
      · exact .inr ⟨⟨hfirstSame ▸ hnew.free, hnew.made⟩, hleads⟩
    · have hkeeps : Keeps (fun _ => True) middle after := hsecond.keeps
      exact .inr ⟨⟨hfirstNew.free, hkeeps.directory hfirstNew.made⟩, hleads.mono hkeeps⟩

/-- What is added on the way of its parent is added on the way of a path. -/
theorem AddsDirectories.of_parent {parent : Path} (hparent : path.parent? = some parent)
    (h : AddsDirectories parent before after) : AddsDirectories path before after where
  conditions_eq := h.conditions_eq
  entry?_eq_or place :=
    (h.entry?_eq_or place).imp_right fun hnew => ⟨hnew.1, hnew.2.of_parent hparent⟩

/-- A directory is made at the place that its path leads to, where nothing stands. -/
theorem createDirectory_eq_ok (h : before.createDirectory path = .ok after) :
    ∃ place, before.resolve path = .ok place ∧ before.entry? place = none ∧
      after = before.put place .directory := by
  rw [createDirectory] at h
  cases hplace : before.resolve path with
  | error e => simp [hplace] at h
  | ok place =>
    simp only [hplace] at h
    split at h
    · exact absurd h (by simp)
    · cases hentry : before.entry? place with
      | some entry => simp [hentry] at h
      | none =>
        simp only [hentry] at h
        obtain ⟨-, -, h⟩ := map_eq_ok_iff.mp h
        exact ⟨place, rfl, hentry, h.symm⟩

/-- Making a directory adds it. -/
theorem addsDirectories_createDirectory (h : before.createDirectory path = .ok after) :
    AddsDirectories path before after := by
  obtain ⟨place, hresolve, hfree, rfl⟩ := createDirectory_eq_ok h
  have hclear : before.entry? place ≠ some .directory := by simp [hfree]
  have hroot := ne_nil_of_not_directory hclear
  have hkeeps : Keeps (fun _ => True) before (before.put place .directory) :=
    keeps_put_directory hfree
  refine ⟨rfl, fun other => ?_⟩
  by_cases hsame : other = place
  · subst hsame
    refine .inr ⟨⟨hfree, ?_⟩, (leadsThrough_of_resolve hresolve).mono hkeeps⟩
    rw [entry?_put before hroot, if_pos rfl]
  · rw [entry?_put before hroot, if_neg hsame]
    exact .inl rfl

/-- Making a directory that may already exist adds it at most. -/
theorem addsDirectories_ensureDirectory (system : System) (path : Path) :
    AddsDirectories path system (system.ensureDirectory path).1 := by
  rw [ensureDirectory]
  cases hmade : system.createDirectory path with
  | ok made => exact addsDirectories_createDirectory hmade
  | error e => exact .refl path system

/-- Making a directory and the ones above it adds some of them, however far it gets. -/
theorem addsDirectories_createDirectoriesAbove (system : System) (path : Path) (depth : Nat) :
    AddsDirectories path system (system.createDirectoriesAbove path depth).1 := by
  induction depth generalizing path with
  | zero => exact .refl path system
  | succ depth ih =>
    rw [createDirectoriesAbove]
    cases hmade : system.createDirectory path with
    | ok made => exact addsDirectories_createDirectory hmade
    | error e =>
      split
      · next heq => exact absurd heq (by simp)
      · cases hparent : path.parent? with
        | none => exact .refl path system
        | some parent =>
          have habove := (ih parent).of_parent hparent
          simp only
          split
          · next hresult => rwa [hresult] at habove
          · next made hresult =>
            rw [hresult] at habove
            exact habove.trans (addsDirectories_ensureDirectory made path)
      · exact .refl path system

/-- Making a directory and the missing ones above it adds some of them, however far it gets. -/
theorem addsDirectories_createDirectories (system : System) (path : Path) :
    AddsDirectories path system (system.createDirectories path).1 :=
  addsDirectories_createDirectoriesAbove system path path.names.length

/-- Names lead where they led unless there was nothing at some point and they lead to or through a
new directory now. -/
theorem walk_eq_or
    (hentry : ∀ place, after.entry? place = before.entry? place ∨ IsNewDirectory before after place)
    (names : List RawText) (start : Place) :
    after.walk start names = before.walk start names ∨
      before.walk start names = .error .notFound ∧
        ∃ front place, front <+: names ∧ after.walk start front = .ok place ∧
          IsNewDirectory before after place := by
  induction names generalizing start with
  | nil => exact .inl rfl
  | cons name names ih =>
    rcases hentry start with hsame | hnew
    · have hrequired : after.requireDirectory start = before.requireDirectory start := by
        rw [requireDirectory, requireDirectory, hsame]
      cases hdirectory : before.requireDirectory start with
      | error e => exact .inl (by simp only [walk, hrequired, hdirectory])
      | ok _ =>
        by_cases hlong : name.bytes.length > maxNameLength
        · exact .inl (by simp only [walk, hrequired, hdirectory, if_pos hlong])
        · simp only [walk, hrequired, hdirectory, if_neg hlong]
          refine (ih (step start name)).imp_right ?_
          rintro ⟨hmissing, front, place, hfront, hwalk, hnew⟩
          refine ⟨hmissing, name :: front, place, (List.prefix_cons_inj name).mpr hfront, ?_, hnew⟩
          simp only [walk, hrequired, hdirectory, if_neg hlong, hwalk]
    · have hmissing : before.requireDirectory start = .error .notFound := by
        rw [requireDirectory, hnew.free]
      exact .inr ⟨by simp only [walk, hmissing], [], start, List.nil_prefix, rfl, hnew⟩

/-- What a path finds stays as it was, unless there was nothing and the path leads to or through a
new directory. -/
theorem AddsDirectories.lookup_eq_or {added : Path} (h : AddsDirectories added before after)
    (path : Path) :
    after.lookup path = before.lookup path ∨
      before.exists path = false ∧
        ∃ place, after.LeadsThrough path place ∧ IsNewDirectory before after place := by
  have hentry (place : Place) := (h.entry?_eq_or place).imp_right And.left
  have hstart : after.start path = before.start path := by
    rw [start, start, h.conditions_eq]
  rcases resolve_eq_or path with ⟨e, hfails⟩ | hwalks
  · exact .inl (by simp only [lookup, hfails])
  · rcases walk_eq_or hentry path.names (before.start path) with
      hwalk | ⟨hmissing, front, place, hfront, hwalk, hnew⟩
    · cases hplace : before.walk (before.start path) path.names with
      | error e => exact .inl (by simp only [lookup, hwalks, hstart, hwalk, hplace])
      | ok place =>
        rcases hentry place with hsame | hnew
        · exact .inl (by simp only [lookup, hwalks, hstart, hwalk, hplace, hsame])
        · refine .inr ⟨by simp only [«exists», lookup, hwalks, hplace, hnew.free], place,
            ⟨path.names, List.prefix_refl _, ?_⟩, hnew⟩
          rw [hstart, hwalk, hplace]
    · refine .inr ⟨by simp only [«exists», lookup, hwalks, hmissing], place,
        ⟨front, hfront, ?_⟩, hnew⟩
      rw [hstart, hwalk]

end System

end InventoryQuery.Files

import InventoryQuery.Proofs.Files.Directories

/-!
# Writing files

A file that is written comes to stand at the place that its path leads to, and all else is kept. If
there is no room for all of its content, the file is left with the beginning. A path that does not
lead to the file finds what it found before.
-/

namespace InventoryQuery.Files

namespace System

variable {system before after : System} {path : Path} {place : Place} {content : ByteArray}

/-- The place of a file that may be written is where its path leads to, and no directory stands
there. -/
theorem writePlace_eq_ok (h : system.writePlace path = .ok place) :
    system.resolve path = .ok place ∧ system.entry? place ≠ some .directory ∧
      path.isDirectory = false := by
  rw [writePlace] at h
  cases hresolve : system.resolve path with
  | error e => simp [hresolve] at h
  | ok reached =>
    simp only [hresolve] at h
    cases hentry : system.entry? reached with
    | none =>
      cases hending : path.ending with
      | nothing =>
        simp only [hentry, hending] at h
        obtain ⟨-, -, rfl⟩ := map_eq_ok_iff.mp h
        exact ⟨rfl, by simp [hentry], by simp [Path.isDirectory, hending]⟩
      | slash => simp [hentry, hending] at h
      | dot => simp [hentry, hending] at h
    | some entry =>
      cases entry with
      | directory => simp [hentry] at h
      | file old =>
        simp only [hentry] at h
        split at h
        · exact absurd h (by simp)
        · next hpath =>
          split at h
          · exact absurd h (by simp)
          · obtain rfl := Except.ok.inj h
            exact ⟨rfl, by simp [hentry], Bool.eq_false_iff.mpr hpath⟩

/-- Filling a file puts it at its place, with its content or the beginning of it. -/
theorem fst_fill (system : System) (place : Place) (content : ByteArray) :
    ∃ left, (system.fill place content).1 = system.put place (.file left) := by
  rw [fill]
  cases (system.room? place).filter (· < content.size) with
  | none => exact ⟨content, rfl⟩
  | some room => exact ⟨content.extract 0 room, rfl⟩

/-- A file for which there is room is filled with its content. -/
theorem fst_fill_of_ok (h : (system.fill place content).2 = .ok ()) :
    (system.fill place content).1 = system.put place (.file content) := by
  rw [fill] at h ⊢
  cases hroom : (system.room? place).filter (· < content.size) with
  | none => rfl
  | some room =>
    rw [hroom] at h
    exact absurd h (by simp)

/-- A file is left with the beginning of its content where there is no room for all of it. -/
theorem fst_fill_of_error {e : Error} (h : (system.fill place content).2 = .error e) :
    e = .noSpace ∧ ∃ room, system.room? place = some room ∧ room < content.size ∧
      (system.fill place content).1 = system.put place (.file (content.extract 0 room)) := by
  rw [fill] at h ⊢
  cases hroom : (system.room? place).filter (· < content.size) with
  | none =>
    rw [hroom] at h
    exact absurd h (by simp)
  | some room =>
    rw [hroom] at h
    obtain ⟨hlimit, hless⟩ := Option.filter_eq_some_iff.mp hroom
    exact ⟨(Except.error.inj h).symm, room, hlimit, of_decide_eq_true hless, rfl⟩

/-- Filling a file where no directory stands keeps the directories and all other files. -/
theorem keeps_fill {kept : Place → Prop} (hfree : system.entry? place ≠ some .directory)
    (hplace : ¬ kept place) (content : ByteArray) :
    Keeps kept system (system.fill place content).1 := by
  obtain ⟨left, hleft⟩ := fst_fill system place content
  rw [hleft]
  exact keeps_put_file hfree hplace left

/-- Making the directories above a path keeps everything. -/
theorem keeps_makeParent {kept : Place → Prop} (system : System) (path : Path) :
    Keeps kept system (system.makeParent path).1 := by
  rw [makeParent]
  cases path.parent? with
  | none => exact Keeps.refl kept system
  | some parent => exact (addsDirectories_createDirectories system parent).keeps

/-- The place of the file that storing something at a path writes, if it gets that far. -/
def storePlace? (system : System) (path : Path) : Option Place :=
  match system.makeParent path with
  | (made, .ok ()) => (made.writePlace path).toOption
  | (_, .error _) => none

/-- What becomes of storing something: it gets no further than the directories above the path, or it
fills the file that is written. -/
theorem store_cases (system : System) (path : Path) (content : ByteArray) :
    (system.storePlace? path = none ∧ (system.store path content).1 = (system.makeParent path).1 ∧
      ∃ e, (system.store path content).2 = .error e) ∨
    ∃ place, system.storePlace? path = some place ∧
      (system.makeParent path).1.writePlace path = .ok place ∧
      system.store path content = (system.makeParent path).1.fill place content := by
  rw [storePlace?, store]
  cases hparent : system.makeParent path with
  | mk made result =>
    cases result with
    | error e => exact .inl ⟨rfl, rfl, e, rfl⟩
    | ok _ =>
      simp only [writeFile]
      cases hplace : made.writePlace path with
      | error e => exact .inl ⟨rfl, rfl, e, rfl⟩
      | ok place => exact .inr ⟨place, rfl, rfl, rfl⟩

/-- Storing something keeps the directories and all files but the one that is written. -/
theorem keeps_store {kept : Place → Prop}
    (h : ∀ place, system.storePlace? path = some place → ¬ kept place) (content : ByteArray) :
    Keeps kept system (system.store path content).1 := by
  rcases store_cases system path content with ⟨-, hmade, -⟩ | ⟨place, hplace, hwrite, hfill⟩
  · rw [hmade]
    exact keeps_makeParent system path
  · rw [hfill]
    exact (keeps_makeParent system path).trans
      (keeps_fill (writePlace_eq_ok hwrite).2.1 (h place hplace) content)

/-- What is stored stands at the place of its path. -/
theorem store_eq_ok (h : (system.store path content).2 = .ok ()) :
    ∃ place, (system.store path content).1.resolve path = .ok place ∧ path.isDirectory = false ∧
      System.entry? (system.store path content).1 place = some (.file content) := by
  rcases store_cases system path content with ⟨-, -, e, hfailed⟩ | ⟨place, -, hwrite, hfill⟩
  · exact absurd (h.symm.trans hfailed) (by simp)
  · obtain ⟨hresolve, hfree, hpath⟩ := writePlace_eq_ok hwrite
    have hroot := ne_nil_of_not_directory hfree
    rw [hfill] at h ⊢
    have hkeeps : Keeps (fun _ => False) (system.makeParent path).1
        ((system.makeParent path).1.fill place content).1 := keeps_fill hfree id content
    refine ⟨place, hkeeps.resolve_eq_ok hresolve, hpath, ?_⟩
    rw [fst_fill_of_ok h, entry?_put _ hroot, if_pos rfl]

/-- Names lead where they led when a file is put where no directory stands, or nowhere before and
after. -/
theorem walk_put_file_eq_or (hfree : before.entry? place ≠ some .directory) (content : ByteArray)
    (names : List RawText) (start : Place) :
    (before.put place (.file content)).walk start names = before.walk start names ∨
      (∃ e, before.walk start names = .error e) ∧
        ∃ e, (before.put place (.file content)).walk start names = .error e := by
  have hroot := ne_nil_of_not_directory hfree
  induction names generalizing start with
  | nil => exact .inl rfl
  | cons name names ih =>
    by_cases hstart : start = place
    · subst hstart
      refine .inr ⟨?_, .notADirectory, ?_⟩
      · rw [walk, requireDirectory]
        cases hentry : before.entry? start with
        | none => exact ⟨_, rfl⟩
        | some entry =>
          cases entry with
          | directory => exact absurd hentry hfree
          | file old => exact ⟨_, rfl⟩
      · rw [walk, requireDirectory, entry?_put before hroot, if_pos rfl]
    · have hrequired : (before.put place (.file content)).requireDirectory start =
          before.requireDirectory start := by
        rw [requireDirectory, requireDirectory, entry?_put before hroot, if_neg hstart]
      rw [walk, walk, hrequired]
      cases before.requireDirectory start with
      | error e => exact .inl rfl
      | ok _ =>
        dsimp only
        split
        · exact .inl rfl
        · exact ih (step start name)

/-- A path finds what it found when a file is put where no directory stands, or nothing before and
after, unless it leads to the file. -/
theorem lookup_put_file_eq_or (hfree : before.entry? place ≠ some .directory) (content : ByteArray)
    (path : Path) :
    (before.put place (.file content)).lookup path = before.lookup path ∨
      (before.exists path = false ∧ (before.put place (.file content)).exists path = false) ∨
      (before.put place (.file content)).resolve path = .ok place := by
  have hroot := ne_nil_of_not_directory hfree
  have hstart : (before.put place (.file content)).start path = before.start path := rfl
  rcases resolve_eq_or path with ⟨e, hfails⟩ | hwalks
  · exact .inl (by simp only [lookup, hfails])
  · rcases walk_put_file_eq_or hfree content path.names (before.start path) with
      hwalk | ⟨⟨e, hbefore⟩, other, hafter⟩
    · cases hplace : before.walk (before.start path) path.names with
      | error e => exact .inl (by simp only [lookup, hwalks, hstart, hwalk, hplace])
      | ok reached =>
        by_cases hreached : reached = place
        · refine .inr (.inr ?_)
          rw [hwalks, hstart, hwalk, hplace, hreached]
        · refine .inl ?_
          simp only [lookup, hwalks, hstart, hwalk, hplace, entry?_put before hroot,
            if_neg hreached]
    · refine .inr (.inl ⟨?_, ?_⟩)
      · simp only [«exists», lookup, hwalks, hbefore]
      · simp only [«exists», lookup, hwalks, hstart, hafter]

end System

end InventoryQuery.Files

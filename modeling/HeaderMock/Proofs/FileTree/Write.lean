import HeaderMock.Proofs.FileTree.Lookup

/-!
# Writing files

Writing to a path puts a file where the path leads and changes nothing else. It makes no directory
and removes none, so that every path names a directory afterwards if it did before.

## Main definitions

* `FileTree.SameDirs`: two trees have the same directories.
* `FileTree.Gains`: a tree is another one with a file at a location.

## Main statements

* `FileTree.gains_of_locateForWriting`: what writing to a path that can be opened does.
* `FileTree.Gains.sameDirs`: a file that is gained leaves the directories as they are.
-/

namespace HeaderMock

namespace FileTree

variable {t t' t'' : FileTree} {loc : Location}

/-! ## Directories -/

/-- The trees have the same directories, and work in the same one. -/
structure SameDirs (t t' : FileTree) : Prop where
  cwd : t'.cwd = t.cwd
  dir (loc : Location) : t'.node? loc = some .dir ↔ t.node? loc = some .dir

theorem SameDirs.refl (t : FileTree) : SameDirs t t := ⟨rfl, fun _ => .rfl⟩

theorem SameDirs.trans (h : SameDirs t t') (h' : SameDirs t' t'') : SameDirs t t'' :=
  ⟨h'.cwd.trans h.cwd, fun loc => (h'.dir loc).trans (h.dir loc)⟩

theorem SameDirs.start_eq (h : SameDirs t t') (path : String) : t'.start path = t.start path := by
  simp only [start, h.cwd]

theorem SameDirs.absolute_eq (h : SameDirs t t') (path : String) :
    t'.absolute path = t.absolute path := by
  simp only [absolute, h.start_eq]

/-- Components can be followed in both trees or in none. -/
theorem SameDirs.walk_eq_ok_iff (h : SameDirs t t') {loc' : Location} {cs : List String} :
    t'.walk loc cs = .ok loc' ↔ t.walk loc cs = .ok loc' := by
  induction cs generalizing loc with
  | nil => rfl
  | cons c cs ih =>
    have henter (u : Unit) : t'.enter loc = .ok u ↔ t.enter loc = .ok u := by
      rw [enter_eq_ok_iff, enter_eq_ok_iff, h.dir]
    simp only [walk, bind_eq_ok_iff, henter, ih]

theorem SameDirs.locate_eq_ok_iff (h : SameDirs t t') {path : String} :
    t'.locate path = .ok loc ↔ t.locate path = .ok loc := by
  simp only [locate, bind_eq_ok_iff, h.start_eq, h.walk_eq_ok_iff]

theorem isDir_eq_true_iff {path : String} :
    t.isDir path = true ↔ ∃ loc, t.locate path = .ok loc ∧ t.node? loc = some .dir := by
  unfold isDir
  cases t.locate path <;> simp

theorem SameDirs.isDir_eq (h : SameDirs t t') (path : String) : t'.isDir path = t.isDir path := by
  rw [Bool.eq_iff_iff, isDir_eq_true_iff, isDir_eq_true_iff]
  simp only [h.locate_eq_ok_iff, h.dir]

/-! ## Files -/

/-- `t'` is `t` with the file `content` at `loc`, which is no directory. -/
structure Gains (t : FileTree) (loc : Location) (content : String) (t' : FileTree) : Prop where
  cwd : t'.cwd = t.cwd
  not_dir : t.node? loc ≠ some .dir
  node?_self : t'.node? loc = some (.file content)
  node?_of_ne {other : Location} : other ≠ loc → t'.node? other = t.node? other

theorem Gains.sameDirs {content : String} (h : t.Gains loc content t') : SameDirs t t' where
  cwd := h.cwd
  dir other := by
    by_cases heq : other = loc
    · subst heq
      simp [h.node?_self, h.not_dir]
    · rw [h.node?_of_ne heq]

theorem lookup_filter_ne {entries : List (Location × Node)} {other : Location} (h : other ≠ loc) :
    (entries.filter (·.1 != loc)).lookup other = entries.lookup other := by
  induction entries with
  | nil => rfl
  | cons e es ih =>
    obtain ⟨l, node⟩ := e
    by_cases hl : l = loc
    · subst hl
      have hbeq : (other == l) = false := by simpa using h
      simpa [List.lookup_cons, hbeq] using ih
    · simp [List.lookup_cons, hl, ih]

theorem gains_set {content : String} (h : t.node? loc ≠ some .dir) :
    t.Gains loc content (t.set loc (.file content)) where
  cwd := rfl
  not_dir := h
  node?_self := by
    have hcwd : ¬loc.isPrefixOf t.cwd := fun hpre => h (by simp [node?, hpre])
    simp [node?, set, hcwd]
  node?_of_ne {other} hne := by
    have hbeq : (other == loc) = false := by simpa using hne
    simp only [node?, set, List.lookup_cons, hbeq, lookup_filter_ne hne]

/-- A path that can be opened for writing leads to its absolute path, where no directory is. -/
theorem locateForWriting_eq_ok {path : String} (h : t.locateForWriting path = .ok loc) :
    loc = (t.absolute path).names ∧ t.node? loc ≠ some .dir := by
  simp only [locateForWriting, bind_eq_ok_iff] at h
  obtain ⟨-, -, h⟩ := h
  split at h
  · cases h
  next last parents hparts =>
  simp only [bind_eq_ok_iff] at h
  obtain ⟨dir, hwalk, -, -, h⟩ := h
  split at h
  · cases h
  next hlast =>
  simp only [bind_eq_ok_iff] at h
  obtain ⟨-, -, h⟩ := h
  simp only [not_or] at hlast
  obtain ⟨hdot, hup, hslash⟩ := hlast
  have hempty : last ≠ "" := by
    intro hlast
    have hdrop := List.head?_dropWhile_not (· == "") (Path.components path).reverse
    simp [hparts, hlast] at hdrop
  -- Without a slash at the end nothing is dropped.
  have hcomponents : Path.components path = parents.reverse ++ [last] := by
    have hkeep : (Path.components path).reverse.dropWhile (· == "") =
        (Path.components path).reverse := by
      cases hrev : (Path.components path).reverse with
      | nil => rfl
      | cons c cs =>
        have hc : c ≠ "" := by
          rintro rfl
          exact hslash (by rw [← List.head?_reverse, hrev, List.head?_cons])
        simp [hc]
    rw [hkeep] at hparts
    simpa using congrArg List.reverse hparts
  have hnames : (t.absolute path).names = dir ++ [last] := by
    have hstep : step dir last = dir ++ [last] := by simp [step, hempty, hdot, hup]
    have hdir : dir = parents.reverse.foldl step (t.start path) := walk_eq_ok hwalk
    rw [absolute, hcomponents, resolve, List.foldl_append, ← hdir]
    exact hstep
  split at h
  · cases h
  next hnode =>
  cases h
  exact ⟨hnames.symm, hnode⟩

theorem write_of_error {path : String} {e : FileError} (h : t.locateForWriting path = .error e)
    (content : String) (failure : Option Failure) :
    t.write path content failure = (.error e, t) := by
  simp only [write, h]

theorem write_none {path : String} (h : t.locateForWriting path = .ok loc) (content : String) :
    t.write path content none = (.ok (), t.set loc (.file content)) := by
  simp only [write, h]

theorem write_some {path : String} (h : t.locateForWriting path = .ok loc) (content : String)
    (failure : Failure) :
    t.write path content (some failure) =
      (.error (.system failure.error),
        ((failure.leaves content).map fun start => t.set loc (.file start)).getD t) := by
  simp only [write, h]
  cases failure.leaves content <;> rfl

/-- A file that is opened for writing can hold any text, and nothing else changes. -/
theorem gains_of_locateForWriting {path : String} (h : t.locateForWriting path = .ok loc)
    (content : String) :
    t.Gains (t.absolute path).names content (t.set loc (.file content)) := by
  obtain ⟨rfl, hnode⟩ := locateForWriting_eq_ok h
  exact gains_set hnode

end FileTree

end HeaderMock

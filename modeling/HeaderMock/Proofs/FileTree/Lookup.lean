import HeaderMock.Proofs.Sequencing

/-!
# Looking up paths

Which paths are looked up, and which are refused before. A null character in a path is noticed
before any directory is entered, and no directory can give the same error.

## Main statements

* `FileTree.checkPath_eq_ok_iff`: the paths that are looked up.
* `FileTree.read_eq_nullInPath_iff`, `FileTree.locateForWriting_eq_nullInPath_iff`: reading and
  writing tell a null character apart from all other errors.
-/

namespace HeaderMock

namespace FileTree

variable {t : FileTree} {loc : Location} {path : String}

@[grind =] theorem checkPath_eq_ok_iff :
    checkPath path = .ok () ↔
      path ≠ "" ∧ '\x00' ∉ path.toList ∧ path.utf8ByteSize ≤ maxPath := by
  unfold checkPath
  split
  · simp_all
  split
  · simp_all
  split <;> simp_all

@[simp, grind =] theorem checkPath_eq_nullInPath_iff :
    checkPath path = .error .nullInPath ↔ '\x00' ∈ path.toList := by
  unfold checkPath
  split
  · simp_all
  split
  · simp_all
  split <;> simp_all

@[simp, grind =] theorem enter_eq_ok_iff : t.enter loc = .ok () ↔ t.node? loc = some .dir := by
  unfold enter
  split <;> simp_all

@[simp] theorem enter_ne_nullInPath : t.enter loc ≠ .error .nullInPath := by
  unfold enter
  split <;> simp

@[simp] theorem checkName_ne_nullInPath {name : String} :
    checkName name ≠ .error .nullInPath := by
  unfold checkName
  split <;> simp

@[simp] theorem walk_ne_nullInPath {cs : List String} : t.walk loc cs ≠ .error .nullInPath := by
  induction cs generalizing loc with
  | nil => simp [walk]
  | cons c cs ih => simp [walk, ih]

@[simp, grind =] theorem read_eq_nullInPath_iff :
    t.read path = .error .nullInPath ↔ '\x00' ∈ path.toList := by
  simp only [read, locate, bind_eq_error_iff, checkPath_eq_nullInPath_iff, walk_ne_nullInPath,
    and_false, exists_false, or_false, or_iff_left_iff_imp]
  rintro ⟨loc, -, h⟩
  split at h <;> cases h

@[simp, grind =] theorem locateForWriting_eq_nullInPath_iff :
    t.locateForWriting path = .error .nullInPath ↔ '\x00' ∈ path.toList := by
  simp only [locateForWriting, bind_eq_error_iff, checkPath_eq_nullInPath_iff, or_iff_left_iff_imp]
  -- What follows the check of the path ends in other errors.
  rintro ⟨-, -, h⟩
  split at h
  · cases h
  simp only [bind_eq_error_iff, walk_ne_nullInPath, enter_ne_nullInPath, false_or] at h
  obtain ⟨dir, -, -, -, h⟩ := h
  split at h
  · cases h
  simp only [bind_eq_error_iff, checkName_ne_nullInPath, false_or] at h
  obtain ⟨-, -, h⟩ := h
  split at h <;> cases h

end FileTree

theorem Fault.ofFile_of_ne {fault : FileError → Fault} {e : FileError} (h : e ≠ .nullInPath) :
    Fault.ofFile fault e = fault e := by
  cases e with
  | nullInPath => exact absurd rfl h
  | notFound | isDirectory | notDirectory | nameTooLong | system => rfl

end HeaderMock

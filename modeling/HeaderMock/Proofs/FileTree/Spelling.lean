import HeaderMock.Proofs.FileTree.Lookup
import HeaderMock.Proofs.Path.Absolute

/-!
# Spellings of one file

Paths without detours that stand for one absolute path are followed alike, so that a file can be
read through all of them or through none. They differ only in how many characters they have.

## Main statements

* `FileTree.locate_normalize`: a path is followed as its names are, one after another from the root.
* `FileTree.read_normalize_congr`: reading depends on the absolute path only.
-/

namespace HeaderMock

namespace FileTree

/-- The working directory is named as directories are. -/
def NamesCwd (t : FileTree) : Prop :=
  ∀ name ∈ t.cwd, Path.IsName name ∧ name.utf8ByteSize ≤ maxName

theorem walk_append (t : FileTree) (loc : Location) (cs cs' : List String) :
    t.walk loc (cs ++ cs') = t.walk loc cs >>= fun loc' => t.walk loc' cs' := by
  induction cs generalizing loc with
  | nil => rfl
  | cons c cs ih => simp only [List.cons_append, walk, ih, bind_assoc]

theorem enter_above_cwd {t : FileTree} {loc : Location} (h : loc <+: t.cwd) :
    t.enter loc = .ok () := by
  have hnode : t.node? loc = some .dir := by simp [node?, h]
  simp [enter, hnode]

/-- Components that lead nowhere else can be followed from a directory. -/
theorem walk_of_isStay {t : FileTree} {loc : Location} (h : t.enter loc = .ok ())
    {cs : List String} (hcs : ∀ c ∈ cs, Path.IsStay c) : t.walk loc cs = .ok loc := by
  induction cs with
  | nil => rfl
  | cons c cs ih =>
    have hc : Path.IsStay c := hcs c (by simp)
    have hname : checkName c = .ok () := by rcases hc with rfl | rfl <;> rfl
    have hstep : step loc c = loc := if_pos hc
    simp only [walk, h, hname, hstep]
    exact ih fun d hd => hcs d (by simp [hd])

/-- Steps up can be followed from the working directory. -/
theorem walk_up {t : FileTree} {loc : Location} (h : loc <+: t.cwd) (k : Nat) :
    t.walk loc (List.replicate k "..") = .ok (resolve loc (List.replicate k "..")) := by
  induction k generalizing loc with
  | zero => rfl
  | succ k ih =>
    have hname : checkName ".." = .ok () := rfl
    have hup : step loc ".." <+: t.cwd := by
      simpa [step] using (List.dropLast_prefix loc).trans h
    simp only [List.replicate_succ, walk, enter_above_cwd h, hname]
    exact ih hup

/-- The names of a directory above the working directory can be followed from the root. -/
theorem walk_down {t : FileTree} (hcwd : t.NamesCwd) {loc names : Location}
    (h : loc ++ names <+: t.cwd) : t.walk loc names = .ok (loc ++ names) := by
  induction names generalizing loc with
  | nil => simp [walk]
  | cons name names ih =>
    obtain ⟨hname, hsize⟩ := hcwd name (h.subset (by simp))
    have hcheck : checkName name = .ok () := if_pos hsize
    have henter : t.enter loc = .ok () := enter_above_cwd ((List.prefix_append _ _).trans h)
    have hrest : t.walk (loc ++ [name]) names = .ok (loc ++ name :: names) := by
      simpa using ih (show (loc ++ [name]) ++ names <+: t.cwd by simpa using h)
    simp only [walk, henter, hcheck, Path.step_of_isName hname]
    exact hrest

theorem resolve_of_isName {loc : Location} {names : List String}
    (h : ∀ name ∈ names, Path.IsName name) : resolve loc names = loc ++ names := by
  induction names generalizing loc with
  | nil => simp [resolve]
  | cons name names ih =>
    have hrest : resolve (loc ++ [name]) names = (loc ++ [name]) ++ names :=
      ih fun other hother => h other (by simp [hother])
    rw [resolve, List.foldl_cons, Path.step_of_isName (h name (by simp))]
    simpa [resolve] using hrest

/-- A path without detours is followed as its names are, one after another from the root. -/
theorem locate_normalize {t : FileTree} (hcwd : t.NamesCwd) {path : String}
    (hcheck : checkPath (Path.normalize path) = .ok ()) :
    t.locate (Path.normalize path) = t.walk [] (t.absolute (Path.normalize path)).names := by
  obtain ⟨-, names, k, hparts, hnames, -⟩ := Path.isNormal_normalParts path
  obtain ⟨stays, hstays, hcs⟩ := Path.exists_components_normalize path
  have hstart : t.start (Path.normalize path) <+: t.cwd := by
    unfold start
    split <;> simp
  have hnames' : ∀ name ∈ names.reverse, Path.IsName name := by simpa using hnames
  have hparts' : (Path.normalParts path).reverse = List.replicate k ".." ++ names.reverse := by
    simp [hparts]
  -- The directory that the steps up lead to, through which the names from the root lead as well.
  obtain ⟨dir, hdir⟩ :
      ∃ dir, resolve (t.start (Path.normalize path)) (List.replicate k "..") = dir := ⟨_, rfl⟩
  have hup : dir <+: t.cwd := hdir ▸ Path.resolve_up_above hstart k
  have hdown : t.walk [] dir = .ok dir := walk_down hcwd hup
  have habsolute : (t.absolute (Path.normalize path)).names = dir ++ names.reverse := by
    rw [absolute, Path.resolve_components_normalize, hparts', Path.resolve_append, hdir,
      resolve_of_isName hnames']
  calc t.locate (Path.normalize path)
      = t.walk (t.start (Path.normalize path))
          (stays ++ (List.replicate k ".." ++ names.reverse)) := by
        rw [locate, hcheck, hcs, hparts']
        rfl
    _ = t.walk (t.start (Path.normalize path)) (List.replicate k ".." ++ names.reverse) := by
        rw [walk_append, walk_of_isStay (enter_above_cwd hstart) hstays]
        rfl
    _ = t.walk dir names.reverse := by
        rw [walk_append, walk_up hstart, hdir]
        rfl
    _ = t.walk [] (t.absolute (Path.normalize path)).names := by
        rw [habsolute, walk_append, hdown]
        rfl

/-- Reading a path without detours depends on its absolute path only, unless it cannot be followed
at all. -/
theorem read_normalize_congr {t : FileTree} (hcwd : t.NamesCwd) {path path' : String}
    (h : t.absolute (Path.normalize path) = t.absolute (Path.normalize path'))
    (hcheck : checkPath (Path.normalize path) = .ok ())
    (hcheck' : checkPath (Path.normalize path') = .ok ()) :
    t.read (Path.normalize path) = t.read (Path.normalize path') := by
  rw [read, read, locate_normalize hcwd hcheck, locate_normalize hcwd hcheck', h]

end FileTree

end HeaderMock

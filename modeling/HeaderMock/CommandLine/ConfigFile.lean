import HeaderMock.Report

/-!
# Configuration files

An option that names a configuration file is replaced by the words of the file, which may name more
files. Relative names are taken from the directory of the file that they stand in. Each file is read
once.

## Main definitions

* `ConfigFile.next`: whether an argument names a configuration file.
* `ConfigFile.inclusion`: what comes of such an argument.
* `ConfigFile.expand`: arguments with the words of all configuration files in their places.
-/

namespace HeaderMock.ConfigFile

/-- Arguments of one source, still to be read, and the directory that names in them start from. -/
structure Frame where
  base : String
  args : List String
  deriving Repr, DecidableEq

/-- The first of some arguments: a word to keep, or the name of a configuration file. -/
inductive Next where
  | keep (arg : String) (rest : List String)
  | file (path : String) (rest : List String)
  deriving Repr, DecidableEq

/-- The name in an argument that holds the option and the name together. -/
def joinedPath? (arg : String) : Option String :=
  match Text.dropStart? "--config-file=".toList arg.toList with
  | some path => some (String.ofList path)
  | none =>
    match Text.dropStart? "-f".toList arg.toList with
    | some (c :: path) => some (String.ofList (c :: path))
    | _ => none

/-- Looks at the first of some arguments. An option at the very end is kept, as it names no file. -/
def next (arg : String) (rest : List String) : Next :=
  if arg = "-f" ∨ arg = "--config-file" then
    match rest with
    | [] => .keep arg []
    | path :: rest => .file path rest
  else
    match joinedPath? arg with
    | some path => .file path rest
    | none => .keep arg rest

theorem next_keep_length {arg kept : String} {rest rest' : List String}
    (h : next arg rest = .keep kept rest') : rest'.length ≤ rest.length := by
  unfold next at h
  split at h
  · split at h
    · simp only [Next.keep.injEq] at h
      simp [← h.2]
    · simp at h
  · split at h
    · simp at h
    · simp only [Next.keep.injEq] at h
      simp [← h.2]

theorem next_file_length {arg path : String} {rest rest' : List String}
    (h : next arg rest = .file path rest') : rest'.length ≤ rest.length := by
  unfold next at h
  split at h
  · split at h
    · simp at h
    · simp only [Next.file.injEq] at h
      simp [← h.2]
  · split at h
    · simp only [Next.file.injEq] at h
      simp [← h.2]
    · simp at h

/-- The paths of the files of a tree; two slashes at the start are not the same as one. -/
def filePaths (t : FileTree) : List AbsolutePath :=
  t.fileLocations.flatMap fun names => [⟨"/", names⟩, ⟨"//", names⟩]

/-- The number of file paths that are not in `seen`. -/
def unread (t : FileTree) (seen : List AbsolutePath) : Nat :=
  ((filePaths t).filter fun file => !seen.contains file).length

theorem mem_filePaths_of_read {t : FileTree} {path text : String} (h : t.read path = .ok text) :
    t.absolute path ∈ filePaths t := by
  obtain ⟨content, hn, -⟩ := FileTree.node?_of_read h
  have hfile : (t.absolute path).names ∈ t.fileLocations := FileTree.mem_fileLocations hn
  have hroot : (t.absolute path).root = "/" ∨ (t.absolute path).root = "//" := by
    by_cases habs : Path.isAbsolute path = true
    · simpa [FileTree.absolute, habs] using Path.rootSlashes_of_isAbsolute habs
    · simp [FileTree.absolute, habs]
  refine List.mem_flatMap.mpr ⟨_, hfile, ?_⟩
  rcases hroot with hroot | hroot <;> simp [← hroot]

theorem unread_cons_lt {t : FileTree} {seen : List AbsolutePath} {file : AbsolutePath}
    (h : file ∈ filePaths t) (hs : ¬seen.contains file) :
    unread t (file :: seen) < unread t seen := by
  have hcons : unread t (file :: seen) =
      (((filePaths t).filter fun f => !seen.contains f).filter fun f => f != file).length := by
    simp only [unread, List.filter_filter, List.contains_cons, Bool.not_or, bne]
  rw [hcons, unread, List.length_filter_lt_length_iff_exists]
  exact ⟨file, List.mem_filter.mpr ⟨h, by simpa using hs⟩, by simp⟩

/-- The words of a configuration file, or why there are none. -/
def readWords (t : FileTree) (path : String) : Except Fault (List String) :=
  match t.read path with
  | .error e => .error (Fault.ofFile (fun _ => .unreadableConfigFile path) e)
  | .ok content => (ShellWords.split content).mapError (Fault.malformedConfigFile path)

/-- The path of the file `name` in an argument from `base`. -/
def place (base name : String) : String := Path.normalize (Path.join base name)

/-- What comes of an option that names a configuration file. -/
inductive Inclusion where
  /-- The file cannot be read. -/
  | refused (fault : Fault)
  /-- The file has been read before. -/
  | repeated
  | fresh (words : List String)
  deriving Repr, DecidableEq

/-- The file at `path`, where the files in `seen` have been read. -/
def inclusion (t : FileTree) (seen : List AbsolutePath) (path : String) : Inclusion :=
  if seen.contains (t.absolute path) then .repeated
  else
    match readWords t path with
    | .error fault => .refused fault
    | .ok words => .fresh words

theorem unread_lt_of_inclusion {t : FileTree} {seen : List AbsolutePath} {path : String}
    {words : List String} (h : inclusion t seen path = .fresh words) :
    unread t (t.absolute path :: seen) < unread t seen := by
  unfold inclusion readWords at h
  split at h
  · simp at h
  · next hs =>
    cases hr : t.read path with
    | error e => simp [hr] at h
    | ok text => exact unread_cons_lt (mem_filePaths_of_read hr) hs

/-- The arguments still to be read. -/
def pending : List Frame → Nat
  | [] => 0
  | f :: frames => f.args.length + 1 + pending frames

/-- The arguments of the frames, the first one innermost, with the words of files that are not in
`seen` in the places of their options. -/
def expandFrames (t : FileTree) (seen : List AbsolutePath) : List Frame → Report (List String)
  | [] => pure []
  | ⟨_, []⟩ :: frames => expandFrames t seen frames
  | ⟨base, arg :: args⟩ :: frames =>
    match hn : next arg args with
    | .keep kept rest =>
      have := next_keep_length hn
      do
        let words ← expandFrames t seen (⟨base, rest⟩ :: frames)
        return kept :: words
    | .file name rest =>
      have := next_file_length hn
      let path := place base name
      match hi : inclusion t seen path with
      | .refused fault => do
        Report.emit (.readingConfigFile path)
        Report.fail fault
      | .repeated => expandFrames t seen (⟨base, rest⟩ :: frames)
      | .fresh words =>
        have := unread_lt_of_inclusion hi
        do
          Report.emit (.readingConfigFile path)
          expandFrames t (t.absolute path :: seen)
            (⟨Path.dirName path, words⟩ :: ⟨base, rest⟩ :: frames)
termination_by frames => (unread t seen, pending frames)
decreasing_by
  · exact .right _ (by simp [pending])
  · exact .right _ (by simp [pending]; omega)
  · exact .right _ (by simp [pending]; omega)
  · exact .left _ _ (by assumption)

/-- Arguments with the words of all configuration files in their places; names start from the
directory `base`. -/
def expand (t : FileTree) (base : String) (args : List String) : Report (List String) :=
  expandFrames t [] [⟨base, args⟩]

end HeaderMock.ConfigFile

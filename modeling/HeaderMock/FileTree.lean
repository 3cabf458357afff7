import HeaderMock.Path
import HeaderMock.Text.Lines

/-!
# File trees

A finite tree of directories and text files with a working directory. Paths are followed
component by component, so a detour through a missing directory or through a file fails.

## Main definitions

* `FileTree`: the tree.
* `FileTree.locate`: where a path leads.
* `FileTree.absolute`: the absolute path that a path stands for.
* `Failure`: a failure of the operating system.
* `FileTree.read`, `FileTree.readUnless`, `FileTree.write`: reading and writing text files.
* `FileTree.isDir`, `FileTree.isFile`: what a path names.
-/

namespace HeaderMock

/-- The names from the root down to an entry. -/
abbrev Location := List String

/-- An absolute path without detours: the slashes that it starts with and the names below them. -/
structure AbsolutePath where
  root : String
  names : Location
  deriving Repr, DecidableEq

inductive Node where
  | dir
  | file (content : String)
  deriving Repr, DecidableEq

/-- An error that the operating system reports, with its number. -/
structure SystemError where
  code : Nat
  text : String
  deriving Repr, DecidableEq

/-- A failure of the operating system while a text is read or written. -/
structure Failure where
  error : SystemError
  /-- How many characters are written before it; `none` if it does not come to writing. -/
  kept : Option Nat := none
  deriving Repr, DecidableEq

/-- What a failure leaves of a text that is written, if it has come to writing. -/
def Failure.leaves (failure : Failure) (content : String) : Option String :=
  failure.kept.map fun n => String.ofList (content.toList.take n)

/-- Why a path cannot be opened, or a file not be read or written. -/
inductive FileError where
  | notFound
  | isDirectory
  | notDirectory
  | nameTooLong
  /-- The path holds a null character, so that no system call can take it. -/
  | nullInPath
  /-- What no look at the tree can foresee. -/
  | system (error : SystemError)
  deriving Repr, DecidableEq

def FileError.message : FileError → String
  | .notFound => "No such file or directory"
  | .isDirectory => "Is a directory"
  | .notDirectory => "Not a directory"
  | .nameTooLong => "File name too long"
  | .nullInPath => "embedded null byte"
  | .system error => error.text

/-- Entries by location. The working directory and the directories above it are always there. -/
structure FileTree where
  cwd : Location := []
  entries : List (Location × Node) := []
  deriving Repr

namespace FileTree

def node? (t : FileTree) (loc : Location) : Option Node :=
  if loc.isPrefixOf t.cwd then some .dir else t.entries.lookup loc

/-- The locations that hold a file. -/
def fileLocations (t : FileTree) : List Location :=
  t.entries.filterMap fun
    | (loc, .file _) => some loc
    | (_, .dir) => none

theorem mem_of_lookup_eq_some {entries : List (Location × Node)} {loc : Location} {node : Node}
    (h : entries.lookup loc = some node) : (loc, node) ∈ entries := by
  induction entries with
  | nil => simp at h
  | cons e es ih =>
    obtain ⟨l, n⟩ := e
    simp only [List.lookup_cons] at h
    split at h
    · next heq =>
      simp only [Option.some.injEq] at h
      simp_all
    · exact List.mem_cons_of_mem _ (ih h)

theorem mem_fileLocations {t : FileTree} {loc : Location} {content : String}
    (h : t.node? loc = some (.file content)) : loc ∈ t.fileLocations := by
  unfold node? at h
  split at h
  · simp at h
  · exact List.mem_filterMap.mpr ⟨_, mem_of_lookup_eq_some h, rfl⟩

/-- One component further. The root is its own parent. -/
def step (loc : Location) (component : String) : Location :=
  if component = "" ∨ component = "." then loc
  else if component = ".." then loc.dropLast
  else loc ++ [component]

/-- The directory at `loc`, or why it cannot be entered. -/
def enter (t : FileTree) (loc : Location) : Except FileError Unit :=
  match t.node? loc with
  | none => .error .notFound
  | some (.file _) => .error .notDirectory
  | some .dir => .ok ()

/-- The most bytes that a name may have. -/
def maxName : Nat := 255

/-- The most bytes that a path may have. -/
def maxPath : Nat := 4095

/-- A name is looked up only if it is not too long. -/
def checkName (name : String) : Except FileError Unit :=
  if name.utf8ByteSize ≤ maxName then .ok () else .error .nameTooLong

/-- A path is followed only if it is there, has no null character and is not too long. -/
def checkPath (path : String) : Except FileError Unit :=
  if path = "" then .error .notFound
  else if path.toList.contains '\x00' then .error .nullInPath
  else if path.utf8ByteSize ≤ maxPath then .ok ()
  else .error .nameTooLong

/-- Follows components from `loc`; all but the last have to lead to directories. -/
def walk (t : FileTree) : Location → List String → Except FileError Location
  | loc, [] => .ok loc
  | loc, c :: cs => do
    t.enter loc
    checkName c
    t.walk (step loc c) cs

/-- Where the components of a path start. -/
def start (t : FileTree) (path : String) : Location :=
  if Path.isAbsolute path then [] else t.cwd

/-- Where a path leads; the last component need not exist. -/
def locate (t : FileTree) (path : String) : Except FileError Location := do
  checkPath path
  t.walk (t.start path) (Path.components path)

/-- Where components lead from `loc`, whatever is there. -/
def resolve (loc : Location) (components : List String) : Location := components.foldl step loc

/-- The absolute path that a path stands for, whatever is there. -/
def absolute (t : FileTree) (path : String) : AbsolutePath where
  root := if Path.isAbsolute path then Path.rootSlashes path else "/"
  names := resolve (t.start path) (Path.components path)

def isDir (t : FileTree) (path : String) : Bool :=
  match t.locate path with
  | .ok loc => t.node? loc == some .dir
  | .error _ => false

def isFile (t : FileTree) (path : String) : Bool :=
  match t.locate path with
  | .ok loc => (t.node? loc).any (· != .dir)
  | .error _ => false

/-- The text of a file, with every line end of carriage returns as a line feed. -/
def read (t : FileTree) (path : String) : Except FileError String := do
  let loc ← t.locate path
  match t.node? loc with
  | none => .error .notFound
  | some .dir => .error .isDirectory
  | some (.file content) => .ok (String.ofList (Text.unifyNewlines content.toList))

theorem walk_eq_ok {t : FileTree} {loc loc' : Location} {components : List String}
    (h : t.walk loc components = .ok loc') : loc' = resolve loc components := by
  induction components generalizing loc with
  | nil => simpa [walk, resolve, eq_comm] using h
  | cons c cs ih =>
    simp only [walk, bind, Except.bind] at h
    split at h
    · simp at h
    split at h
    · simp at h
    · exact ih h

/-- The text of a file, unless the operating system fails once the file is found. -/
def readUnless (t : FileTree) (failure : Option Failure) (path : String) :
    Except FileError String := do
  let text ← t.read path
  match failure with
  | none => .ok text
  | some failure => .error (.system failure.error)

/-- A file that is read stands at its absolute path. -/
theorem node?_of_read {t : FileTree} {path text : String} (h : t.read path = .ok text) :
    ∃ content, t.node? (t.absolute path).names = some (.file content) ∧
      text = String.ofList (Text.unifyNewlines content.toList) := by
  unfold read at h
  cases hl : t.locate path with
  | error e => simp [hl, bind, Except.bind] at h
  | ok loc =>
    have hloc : loc = (t.absolute path).names := by
      simp only [locate, bind, Except.bind] at hl
      split at hl
      · simp at hl
      · exact walk_eq_ok hl
    simp only [hl, bind, Except.bind] at h
    split at h
    · simp at h
    · simp at h
    · next content hn =>
      rw [← hloc]
      exact ⟨content, hn, by simpa [eq_comm] using h⟩

/-- The tree with `node` at `loc`. -/
def set (t : FileTree) (loc : Location) (node : Node) : FileTree :=
  { t with entries := (loc, node) :: t.entries.filter (·.1 != loc) }

/-- Where a path that is opened for writing leads. A path that ends in a slash names no file. -/
def locateForWriting (t : FileTree) (path : String) : Except FileError Location := do
  checkPath path
  let parts := Path.components path
  match (parts.reverse.dropWhile (· == "")) with
  | [] => .error .isDirectory
  | last :: parents =>
    let dir ← t.walk (t.start path) parents.reverse
    t.enter dir
    if last = "." ∨ last = ".." ∨ parts.getLast? = some "" then .error .isDirectory
    else
      checkName last
      match t.node? (dir ++ [last]) with
      | some .dir => .error .isDirectory
      | _ => .ok (dir ++ [last])

/-- Whether a text can be written to a path, and the tree afterwards. A file that is opened loses
what it held, so that a failure from then on leaves only a start of the text. -/
def write (t : FileTree) (path content : String) (failure : Option Failure) :
    Except FileError Unit × FileTree :=
  match t.locateForWriting path, failure with
  | .error e, _ => (.error e, t)
  | .ok loc, none => (.ok (), t.set loc (.file content))
  | .ok loc, some failure =>
    (.error (.system failure.error),
      match failure.leaves content with
      | none => t
      | some start => t.set loc (.file start))

/-- The tree with the directories from `loc` to the root. -/
def makeDirs (t : FileTree) (loc : Location) : FileTree :=
  ((List.range (loc.length + 1)).map loc.take).foldl
    (fun t dir => if (t.node? dir).isNone then t.set dir .dir else t) t

/-- The tree with a file, and the directories above it. -/
def put (t : FileTree) (loc : Location) (content : String) : FileTree :=
  (t.makeDirs loc.dropLast).set loc (.file content)

/-- The tree without the entry at `loc`. -/
def erase (t : FileTree) (loc : Location) : FileTree :=
  { t with entries := t.entries.filter (·.1 != loc) }

end FileTree

end HeaderMock

import HeaderMock.Text.Blank
import HeaderMock.Text.Split

/-!
# Paths

Slash-separated paths as texts, without looking at any file.

## Main definitions

* `Path.components`: the parts between the slashes.
* `Path.baseName`, `Path.dirName`: the last part, and what stands before it.
* `Path.stem`, `Path.extension`: a path cut before the last dot of its base name.
* `Path.join`, `Path.normalize`: one path after another, and a path without detours.
-/

namespace HeaderMock.Path

open Text

/-- The parts between the slashes; an absolute path has an empty first one. -/
def components (path : String) : List String :=
  (splitAll '/' path.toList).map String.ofList

def isAbsolute (path : String) : Bool :=
  path.toList.head? == some '/'

def baseChars (path : List Char) : List Char :=
  (splitAll '/' path).getLast?.getD []

/-- What follows the last slash. -/
def baseName (path : String) : String :=
  String.ofList (baseChars path.toList)

/-- What stands before the base name, without slashes at its end unless it is made of slashes. -/
def dirName (path : String) : String :=
  let head := path.toList.take (path.toList.length - (baseChars path.toList).length)
  String.ofList (if head.all (· == '/') then head else dropRight (· == '/') head)

/-- A path cut before the last dot of its base name; dots at the start of the base name do not
count, and without another one the second part is empty. -/
def splitExtension (path : String) : String × String :=
  let base := baseChars path.toList
  let dirs := path.toList.take (path.toList.length - base.length)
  let dots := base.takeWhile (· == '.')
  match cut '.' (base.dropWhile (· == '.')).reverse with
  | (_, none) => (path, "")
  | (back, some front) =>
    (String.ofList (dirs ++ dots ++ front.reverse), String.ofList ('.' :: back.reverse))

def stem (path : String) : String := (splitExtension path).1

/-- The last dot of the base name and what follows it. -/
def extension (path : String) : String := (splitExtension path).2

/-- `path` as seen from the directory `base`. -/
def join (base path : String) : String :=
  if isAbsolute path then path
  else if base = "" ∨ endsWithChar base '/' then base ++ path
  else base ++ "/" ++ path

/-- Two slashes at the start are kept, more count as one. -/
def rootSlashes (path : String) : String :=
  match path.toList with
  | '/' :: '/' :: '/' :: _ => "/"
  | '/' :: '/' :: _ => "//"
  | '/' :: _ => "/"
  | _ => ""

theorem rootSlashes_of_isAbsolute {path : String} (h : isAbsolute path = true) :
    rootSlashes path = "/" ∨ rootSlashes path = "//" := by
  simp only [isAbsolute, beq_iff_eq] at h
  unfold rootSlashes
  split
  · exact .inl rfl
  · exact .inr rfl
  · exact .inl rfl
  · next hrel =>
    obtain ⟨r, hr⟩ := List.head?_eq_some_iff.mp h
    exact absurd hr (hrel r)

/-- One more component after those read, nearest first. Going up cancels a name, stays at the
root, and is kept where nothing is left to cancel. -/
def normalStep (absolute : Bool) (done : List String) (component : String) : List String :=
  if component = "" ∨ component = "." then done
  else if component = ".." then
    match done with
    | [] => if absolute then [] else [".."]
    | last :: rest => if last = ".." then ".." :: done else rest
  else component :: done

/-- A path without empty components, stays and detours. -/
def normalize (path : String) : String :=
  let parts := (components path).foldl (normalStep (isAbsolute path)) []
  let result := rootSlashes path ++ String.intercalate "/" parts.reverse
  if result = "" then "." else result

end HeaderMock.Path

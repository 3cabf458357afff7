import HeaderMock.Text.Blank
import HeaderMock.Text.Lines
import HeaderMock.Text.Split

/-!
# User code

Code between two marked comment lines of a mock file is written by hand and is kept when the file is
generated again.

## Main definitions

* `UserCode.extract`: the user code of a file.
-/

namespace HeaderMock.UserCode

open Text

def beginMark : String := "CPPUMOCKGEN_USER_CODE_BEGIN"

def endMark : String := "CPPUMOCKGEN_USER_CODE_END"

/-- What stands here opens a comment that starts with `mark`. -/
def opensComment (mark : List Char) (s : List Char) : Bool :=
  match s with
  | '/' :: '/' :: rest => (dropStart? mark (trimLeft rest)).isSome
  | '/' :: '*' :: rest => (dropStart? mark (trimLeft rest)).isSome
  | _ => false

/-- Some comment in the line starts with `mark`. -/
def hasMark (mark : List Char) : List Char → Bool
  | [] => false
  | c :: rest => opensComment mark (c :: rest) || hasMark mark rest

/-- The lines between marks, and whether the last section is still open. A line with both marks
begins a section. -/
def sections (isOpen : Bool) : List (List Char) → List Char × Bool
  | [] => ([], isOpen)
  | line :: rest =>
    if hasMark beginMark.toList line then sections true rest
    else if hasMark endMark.toList line then sections false rest
    else
      let (code, stillOpen) := sections isOpen rest
      (if isOpen then line ++ code else code, stillOpen)

/-- The user code of a file. If its last section is not closed, there is none. -/
def extract (text : String) : String :=
  match sections false (lines text.toList) with
  | (code, false) => String.ofList code
  | (_, true) => ""

end HeaderMock.UserCode

import HeaderMock.Text.Ranges

/-!
# Blank characters

The characters that separate words and may be trimmed from the ends of a text.

## Main definitions

* `isBlank`: the blank characters.
* `trimLeft`, `trimRight`, `trim`: a text without the blanks at its ends.
-/

namespace HeaderMock.Text

/-- The blank characters, as ranges of code points in ascending order. -/
def blankRanges : List (Nat × Nat) :=
  [(0x09, 0x0d), (0x1c, 0x20), (0x85, 0x85), (0xa0, 0xa0), (0x1680, 0x1680), (0x2000, 0x200a),
   (0x2028, 0x2029), (0x202f, 0x202f), (0x205f, 0x205f), (0x3000, 0x3000)]

/-- Spaces, tabs, line ends and the other separators of width. -/
def isBlank (c : Char) : Bool :=
  inRanges blankRanges c

/-- The text `s` without the longest start of characters in `p`. -/
def dropLeft (p : Char → Bool) (s : List Char) : List Char :=
  s.dropWhile p

/-- The text `s` without the longest end of characters in `p`. -/
def dropRight (p : Char → Bool) : List Char → List Char
  | [] => []
  | c :: r =>
    match dropRight p r with
    | [] => if p c then [] else [c]
    | d :: t => c :: d :: t

def trimLeft (s : List Char) : List Char := dropLeft isBlank s

def trimRight (s : List Char) : List Char := dropRight isBlank s

def trim (s : List Char) : List Char := trimRight (trimLeft s)

@[simp, grind =] theorem isBlank_space : isBlank ' ' = true := rfl

end HeaderMock.Text

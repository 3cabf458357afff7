/-!
# Shell words

Arguments written on one line, the way a shell reads them: blanks separate words, single quotes
keep everything, double quotes keep everything but an escaped quote or backslash, and a backslash
outside quotes keeps the next character.

## Main definitions

* `ShellWords.quote`: one argument as a shell word.
* `ShellWords.split`: the words of a text.
-/

namespace HeaderMock.ShellWords

/-- Why a text has no list of words. -/
inductive Error where
  | openQuote
  | openEscape
  deriving Repr, DecidableEq

def Error.message : Error → String
  | .openQuote => "No closing quotation"
  | .openEscape => "No escaped character"

/-- Characters that need no quotes in a shell word. -/
def isPlain (c : Char) : Bool :=
  c.isAlphanum || "_@%+=:,./-".toList.contains c

/-- Characters that separate words. -/
def isSeparator (c : Char) : Bool :=
  c == ' ' || c == '\t' || c == '\r' || c == '\n'

/-- A word between single quotes, where a single quote itself stands between double quotes. -/
def quoteChars (s : List Char) : List Char :=
  '\'' :: s.flatMap (fun c => if c = '\'' then "'\"'\"'".toList else [c]) ++ ['\'']

/-- Plain nonempty arguments stand as they are, all others between quotes. -/
def quote (s : String) : String :=
  if s.toList ≠ [] ∧ s.toList.all isPlain then s else String.ofList (quoteChars s.toList)

/-- Where the reader stands: between words, inside a word, inside quotes, or after a backslash. -/
inductive Mode where
  | gap
  | word
  | quoted (mark : Char)
  | escaped (inside : Option Char)
  deriving Repr, DecidableEq

/-- The words of the rest of a text, where `acc` holds the current word, last character first. -/
def read : Mode → List Char → List Char → Except Error (List (List Char))
  | .gap, _, [] => .ok []
  | .word, acc, [] => .ok [acc.reverse]
  | .quoted _, _, [] => .error .openQuote
  | .escaped _, _, [] => .error .openEscape
  | .gap, _, c :: r =>
    if isSeparator c then read .gap [] r
    else if c = '\\' then read (.escaped none) [] r
    else if c = '\'' ∨ c = '"' then read (.quoted c) [] r
    else read .word [c] r
  | .word, acc, c :: r =>
    if isSeparator c then (read .gap [] r).map (acc.reverse :: ·)
    else if c = '\\' then read (.escaped none) acc r
    else if c = '\'' ∨ c = '"' then read (.quoted c) acc r
    else read .word (c :: acc) r
  | .quoted mark, acc, c :: r =>
    if c = mark then read .word acc r
    else if c = '\\' ∧ mark = '"' then read (.escaped (some mark)) acc r
    else read (.quoted mark) (c :: acc) r
  | .escaped none, acc, c :: r => read .word (c :: acc) r
  | .escaped (some mark), acc, c :: r =>
    -- Between quotes a backslash is kept unless it escapes the quote or a backslash.
    if c = '\\' ∨ c = mark then read (.quoted mark) (c :: acc) r
    else read (.quoted mark) (c :: '\\' :: acc) r

/-- The words of a text. -/
def split (s : String) : Except Error (List String) :=
  (read .gap [] s.toList).map (·.map String.ofList)

end HeaderMock.ShellWords

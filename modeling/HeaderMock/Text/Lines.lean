/-!
# Lines

A line ends with a line feed, a carriage return, both in this order, a vertical tab, a form feed,
a file, group or record separator, a next-line character, or a line or paragraph separator.

## Main definitions

* `lines`: the lines of a text, each with its end.
* `lineBody`: a line without its end.
* `unifyNewlines`: a text with plain line feeds in place of carriage returns.
-/

namespace HeaderMock.Text

/-- The characters that end a line. -/
def isLineEnd (c : Char) : Bool :=
  c == '\n' || c == '\r' || c == '\x0b' || c == '\x0c' || c == '\x1c' || c == '\x1d' ||
    c == '\x1e' || c == '\u0085' || c == '\u2028' || c == '\u2029'

/-- The lines of a text, each with its end; the last one may have none. -/
def lines : List Char → List (List Char)
  | [] => []
  | '\r' :: '\n' :: r => ['\r', '\n'] :: lines r
  | c :: r =>
    if isLineEnd c then [c] :: lines r
    else
      match lines r with
      | [] => [[c]]
      | line :: rest => (c :: line) :: rest

/-- A line without its end. -/
def lineBody : List Char → List Char
  | [] => []
  | ['\r', '\n'] => []
  | [c] => if isLineEnd c then [] else [c]
  | c :: r => c :: lineBody r

/-- Writes a line feed for a carriage return, and one for a carriage return and a line feed. -/
def unifyNewlines : List Char → List Char
  | [] => []
  | '\r' :: '\n' :: r => '\n' :: unifyNewlines r
  | c :: r => (if c = '\r' then '\n' else c) :: unifyNewlines r

@[simp, grind =] theorem flatten_lines (s : List Char) : (lines s).flatten = s := by
  fun_induction lines s <;> simp_all

end HeaderMock.Text

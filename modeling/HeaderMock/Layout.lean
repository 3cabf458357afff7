/-!
# Layout

Indented text and blocks of statements.

## Main definitions

* `indentSteps`, `indent`: a text with every line moved to the right.
* `block`: statements between braces, one a line.
-/

namespace HeaderMock.Layout

/-- A text with `n` spaces at its start and after every line feed. -/
def indentBy (n : Nat) (s : List Char) : List Char :=
  List.replicate n ' ' ++
    s.flatMap fun c => if c = '\n' then '\n' :: List.replicate n ' ' else [c]

/-- A text moved to the right by `depth` steps of `width` spaces; nothing moves if their product is
not positive. -/
def indentSteps (depth width : Int) (s : String) : String :=
  String.ofList (indentBy (depth * width).toNat s.toList)

/-- The number of spaces in one step. -/
def stepWidth : Int := 4

/-- A text moved to the right by one step. -/
def indent (s : String) : String := indentSteps 1 stepWidth s

/-- Statements between braces, each indented on a line of its own. -/
def block (statements : List String) : String :=
  "\x7b\n" ++ String.join (statements.map fun s => indent s ++ "\n") ++ "\x7d\n"

/-- `a, b, c` -/
def commaSeparated (items : List String) : String :=
  String.intercalate ", " items

end HeaderMock.Layout

import HeaderMock.Text.Lines
import HeaderMock.Text.Split

/-!
# Banners

The comment at the top of every generated file. It records the options that the file was generated
with, so that it can be generated again.

## Main definitions

* `Banner.render`: the banner for some options.
* `Banner.options?`: the options that a file records.
-/

namespace HeaderMock

def version : String := "0.6.0"

namespace Banner

open Text

/-- What the line with the options starts with. -/
def optionsMark : String := " * Generation options: "

def render (options : String) : String :=
  "/*\n * This file has been auto-generated by CppUMockGen v" ++ version ++ ".\n *\n" ++
    " * Contents will NOT be preserved if it is regenerated!!!\n" ++
    (if options = "" then "" else " *\n" ++ optionsMark ++ options ++ "\n") ++ " */\n\n"

/-- The options in the first of `lines` that records them, unless a comment ends before. -/
def optionsIn : List (List Char) → Option (List Char)
  | [] => none
  | line :: rest =>
    match dropStart? optionsMark.toList line with
    | some options => some options
    | none => if (dropStart? " */".toList line).isSome then none else optionsIn rest

/-- The options that a file records. -/
def options? (text : String) : Option String :=
  (optionsIn ((lines text.toList).map lineBody)).map String.ofList

end Banner

end HeaderMock

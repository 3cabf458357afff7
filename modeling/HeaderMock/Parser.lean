import HeaderMock.Decl.Basic
import HeaderMock.Report

/-!
# The C and C++ parser

What is asked of a parser, and what becomes of its answer.

## Main definitions

* `ParserCall`: a request to parse a header; `ParserCall.make` sets the language if the flags do
  not.
* `ParseResult`: the declarations and diagnostics of a header.
* `ParseResult.unit`: the unit of a header without errors.
-/

namespace HeaderMock

/-- The language, the standard and the include directories as flags of a parser. -/
def compilerFlags (cpp : Bool) (std : Option String) (includePaths : List String) : List String :=
  ["-x", if cpp then "c++" else "c"] ++
    (match std with
      | some std => if std = "" then [] else ["-std=" ++ std]
      | none => []) ++
    includePaths.map ("-I" ++ ·)

/-- A request to parse the text of a header. -/
structure ParserCall where
  path : String
  flags : List String
  source : String
  deriving Repr, DecidableEq

/-- Flags that select a language; it is C++ unless they do. -/
def withLanguage (flags : List String) : List String :=
  if flags.contains "-x" then flags else ["-x", "c++"] ++ flags

/-- The request for a header, whose path has to be given. -/
def ParserCall.make (path source : String) (flags : List String) : Except Fault ParserCall :=
  if path = "" then .error .noParserPath else .ok { path, flags := withLanguage flags, source }

structure Diagnostic where
  /-- From two on a warning, from three on an error. -/
  severity : Nat
  text : String
  deriving Repr, DecidableEq

structure ParseResult where
  decls : List Decl := []
  diagnostics : List Diagnostic := []
  /-- Why the header could not be loaded at all. -/
  loadError : Option String := none
  deriving Repr

namespace Diagnostic

def isError (d : Diagnostic) : Bool := decide (3 ≤ d.severity)

def isWarning (d : Diagnostic) : Bool := d.severity == 2

end Diagnostic

/-- The unit of a header. Warnings are reported, also in front of errors. -/
def ParseResult.unit (r : ParseResult) (path : String) : Report SourceUnit :=
  match r.loadError with
  | some text => Report.fail (.parserFailed text)
  | none =>
    { events := (r.diagnostics.filter (·.isWarning)).map fun d => .parserWarning d.text
      result :=
        match (r.diagnostics.filter (·.isError)).map (·.text) with
        | [] => .ok { path, decls := r.decls }
        | texts => .error (.parserErrors texts) }

end HeaderMock

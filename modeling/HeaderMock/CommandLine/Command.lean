import HeaderMock.CommandLine.Arguments
import HeaderMock.CommandLine.ConfigFile
import HeaderMock.Output.File

/-!
# Commands

A command is what a list of arguments asks for, after configuration files are read and, if wanted,
the options of an earlier run are added.

## Main definitions

* `Environment`: the variables that a command depends on.
* `GenerationOptions`: the options that a generated file records.
* `Command.parse`: the command of a list of arguments.
-/

namespace HeaderMock

structure Environment where
  libraryFile : Option String := none
  includePath : Option String := none
  deriving Repr, DecidableEq

/-- The settings before any argument is read. -/
def Environment.defaults (env : Environment) : Settings :=
  { libraryFile := env.libraryFile.map .text }

/-- The options that the generated code depends on. -/
structure GenerationOptions where
  cpp : Bool := false
  std : Option String := none
  underlying : Bool := false
  overrides : List String := []
  deriving Repr, DecidableEq

namespace GenerationOptions

/-- The options as shell words. -/
def words (o : GenerationOptions) : List String :=
  (if o.cpp then ["-x"] else []) ++
    (match o.std with
      | some std => if std = "" then [] else ["-s", ShellWords.quote std]
      | none => []) ++
    (if o.underlying then ["-u"] else []) ++
    o.overrides.flatMap fun option => ["-t", ShellWords.quote option]

/-- The options as a generated file records them. -/
def render (o : GenerationOptions) : String := String.intercalate " " o.words

end GenerationOptions

namespace Arguments

/-- The texts of the type overrides, unless one has none. -/
def overrideTexts (args : Arguments) : Except Fault (List String) :=
  match args.typeOverrides.mapM OptValue.text? with
  | some texts => .ok texts
  | none => .error .overrideWithoutText

/-- The files that may record options of an earlier run. -/
def earlierOutputs (args : Arguments) (t : FileTree) : List String :=
  (args.mockOutput.toList.map fun path => mockPath t path args.input) ++
    args.expectOutput.toList.flatMap fun path =>
      let (header, source) := expectPaths t path args.input
      [header, source]

end Arguments

/-- The options that the first of `paths` records, with this path. -/
def recordedOptions (t : FileTree) : List String → Except Fault (String × String)
  | [] => .error .noRecordedOptions
  | path :: rest =>
    if path ≠ standardOutput ∧ t.isFile path then do
      match Banner.options? (← readText t path) with
      | some options => return (path, options)
      | none => recordedOptions t rest
    else recordedOptions t rest

/-- The words of the options that an earlier output records. -/
def recordedWords (args : Arguments) (t : FileTree) : Report (List String) := do
  let (path, options) ← Report.ofExcept (recordedOptions t (args.earlierOutputs t))
  Report.emit (.reusingOptions path)
  Report.ofExcept ((ShellWords.split options).mapError Fault.malformedOptions)

/-- What a list of arguments asks for. -/
structure Command extends Arguments where
  /-- The texts of the type overrides. -/
  overrides : List String
  /-- More flags of the parser. -/
  flags : List String
  deriving Repr, DecidableEq

namespace Command

/-- The options that override by type. -/
def byType (c : Command) : List String := c.overrides.filter Override.isTypeKey

/-- The options that override by function and parameter. -/
def byParameter (c : Command) : List String := c.overrides.filter (!Override.isTypeKey ·)

/-- What the generated files record. -/
def recorded (c : Command) : GenerationOptions :=
  { cpp := c.cpp, std := c.std.bind OptValue.text?, underlying := c.underlying
    overrides := c.overrides }

/-- The arguments once more with the options of an earlier output, if this is wanted. -/
def withRecorded (defaults : Settings) (t : FileTree) (words : List String) (args : Arguments) :
    Report Arguments :=
  if args.regen then do
    let recorded ← recordedWords args t
    Report.ofExcept (Arguments.parse defaults (words ++ recorded))
  else pure args

/-- The command of a list of arguments. -/
def parse (env : Environment) (t : FileTree) (args : List String) : Report Command := do
  let words ← ConfigFile.expand t "" args
  let first ← Report.ofExcept (Arguments.parse env.defaults words)
  let arguments ← withRecorded env.defaults t words first
  if arguments.mockOutput.isNone && arguments.expectOutput.isNone then Report.fail .noOutput
  else
    let overrides ← Report.ofExcept arguments.overrideTexts
    return { toArguments := arguments, overrides
             flags := env.includePath.toList.flatMap fun path => ["-I", path] }

end Command

end HeaderMock

import HeaderMock.CommandLine.Command
import HeaderMock.Parser

/-!
# Runs

A run turns a command into files. All that it sees and changes is a value: the file tree, standard
output, the events reported, the requests to the parser, and the library file that was set. So are
the failures of the operating system, which a run meets one by one as it reads and writes.

## Main definitions

* `World`: what a run sees and changes.
* `Command.run`: the run of a command.
* `Outcome`: what a run leaves behind; `runProgram` is the whole program.
-/

namespace HeaderMock

structure World where
  files : FileTree
  stdout : String := ""
  events : List Event := []
  calls : List ParserCall := []
  /-- The parser's library file, as far as this run has set it. -/
  libraryFile : Option String := none
  /-- The parser is loaded, so that its library file is settled. -/
  isLoaded : Bool := false
  /-- How the operating system fails the requests to come, in their order; it serves the others. -/
  failures : List (Option Failure) := []
  deriving Repr

/-- How the operating system fails the next request, if it does. -/
def World.nextFailure? (w : World) : Option Failure := w.failures.head?.join

/-- A computation on a world that may end in a fault. -/
abbrev RunM := ExceptT Fault (StateM World)

/-- A parser, as a function of what is asked. -/
abbrev Parser := ParserCall → ParseResult

namespace RunM

variable {α : Type}

def emit (e : Event) : RunM Unit := modify fun w => { w with events := w.events ++ [e] }

/-- A report as part of a run. -/
def ofReport (r : Report α) : RunM α := do
  modify fun w => { w with events := w.events ++ r.events }
  liftExcept r.result
where
  liftExcept : Except Fault α → RunM α
    | .ok a => pure a
    | .error fault => throw fault

/-- Makes a request to the operating system. -/
def request : RunM (Option Failure) := do
  let failure := (← get).nextFailure?
  modify fun w => { w with failures := w.failures.tail }
  return failure

/-- Reads a file; `fault` says what it means if that fails. -/
def readFile (fault : FileError → Fault) (path : String) : RunM String := do
  let failure ← request
  ofReport (.ofExcept (((← get).files.readUnless failure path).mapError (Fault.ofFile fault)))

/-- Prints a text. -/
def print (text : String) : RunM Unit := modify fun w => { w with stdout := w.stdout ++ text }

end RunM

/-- Sets the library file of the parser, unless the parser is loaded. -/
def setLibraryFile (file : String) : RunM Unit := do
  if (← get).isLoaded then RunM.emit (.libraryInUse file)
  else modify fun w => { w with libraryFile := some file }

/-- Has a header parsed. -/
def parseHeader (parser : Parser) (path source : String) (flags : List String) :
    RunM SourceUnit := do
  let call ← RunM.ofReport (.ofExcept (ParserCall.make path source flags))
  modify fun w => { w with calls := w.calls ++ [call] }
  RunM.ofReport ((parser call).unit path)

/-- Reads a header and has it parsed. -/
def parseHeaderFile (parser : Parser) (path : String) (flags : List String) :
    RunM SourceUnit := do
  let source ← RunM.readFile (.unreadableInput path) path
  parseHeader parser path source flags

/-- Writes an output file, or prints it. -/
def writeOutput (path content : String) : RunM Unit := do
  let failure ← RunM.request
  if path = standardOutput then
    match failure with
    | none => RunM.print content
    | some failure =>
      RunM.print ((failure.leaves content).getD "")
      throw (.printingFailed failure.error)
  else
    let (result, files) := (← get).files.write path content failure
    modify fun w => { w with files }
    match result with
    | .error e => throw (Fault.ofFile (.unwritableOutput path) e)
    | .ok () => RunM.emit (.generated path)

/-- The user code of an earlier mock file. -/
def keptUserCode (path : String) : RunM String := do
  let files := (← get).files
  if path ≠ standardOutput ∧ files.isFile path then
    return UserCode.extract (← RunM.readFile (.unreadableFile path) path)
  else return ""

namespace Command

/-- The header is read as C++. -/
def isCpp (c : Command) : Bool := c.cpp || isCppHeader c.input

/-- Writes the mock file, if it is wanted. -/
def writeMock (c : Command) (unit : GeneratedUnit) : RunM Unit := do
  match c.mockOutput with
  | none => return
  | some output =>
    let path := mockPath (← get).files output c.input
    let userCode ← keptUserCode path
    writeOutput path (unit.mockFile c.input c.isCpp c.recorded.render userCode)

/-- Writes the header and the source of the expectations, if they are wanted. -/
def writeExpectations (c : Command) (unit : GeneratedUnit) : RunM Unit := do
  match c.expectOutput with
  | none => return
  | some output =>
    let (header, source) := expectPaths (← get).files output c.input
    writeOutput header (unit.expectHeader c.input c.isCpp c.recorded.render)
    writeOutput source (unit.expectSource header c.recorded.render)

/-- The code that a command asks for. -/
def generate (c : Command) (parser : Parser) : RunM GeneratedUnit := do
  match c.libraryFile.bind OptValue.text? with
  | none | some "" => throw .noLibraryFile
  | some file => setLibraryFile file
  let config ← RunM.ofReport
    (.ofExcept ((Config.build c.underlying c.byParameter c.byType).mapError Fault.config))
  let flags :=
    compilerFlags c.isCpp (c.std.bind OptValue.text?) (c.includePaths.map OptValue.shown) ++ c.flags
  let unit ← parseHeaderFile parser c.input flags
  let generated ← RunM.ofReport (unit.generate config)
  if generated.mocks = [] then throw (.nothingMockable c.input)
  return generated

/-- Generates the code that a command asks for and writes its files. -/
def run (c : Command) (parser : Parser) : RunM Unit := do
  let unit ← c.generate parser
  c.writeMock unit
  c.writeExpectations unit

end Command

/-- What a run leaves behind. -/
structure Outcome where
  world : World
  /-- Everything printed on standard error but the fault. -/
  log : String := ""
  fault : Option Fault := none
  deriving Repr

namespace Outcome

/-- Help and version are no failures; misuse is told apart from other faults. -/
def exitCode (o : Outcome) : Nat :=
  match o.fault with
  | none | some .helpWanted | some .versionWanted => 0
  | some (.usage _) => 2
  | some _ => 1

/-- The events that are shown: all of them, or warnings only. -/
def shown (verbose : Bool) (events : List Event) : String :=
  String.join ((events.filter fun e => verbose || e.level == .warning).map Event.line)

end Outcome

def versionText : String := programName ++ " " ++ version ++ "\n"

/-- The line that tells the user about a fault. -/
def Fault.complaint (fault : Fault) : String := programName ++ ": error: " ++ fault.message

/-- The whole program. Events are shown only once the command is known. -/
def runProgram (env : Environment) (parser : Parser) (world : World) (args : List String) :
    Outcome :=
  match (Command.parse env world.files args).result with
  | .error fault => { world, fault := some fault }
  | .ok command =>
    let (result, after) := (command.run parser).run.run world
    { world := after
      log := Outcome.shown command.verbose after.events
      fault := match result with
        | .ok () => none
        | .error fault => some fault }

end HeaderMock

import HeaderMock.CommandLine.Help
import HeaderMock.Run

/-!
# The command line

Loads the files that a run may look at, runs, and writes back what changed. Everything decided on
the way is decided by `runProgram`.

## Main definitions

* `Disk.loadFor`: a tree with the files that some arguments name.
* `runCommandLine`: the program with a given parser.
-/

namespace HeaderMock

namespace Disk

/-- What the disk holds at a location. -/
def node? (loc : Location) : IO (Option Node) := do
  try
    return some (.file (← IO.FS.readFile ("/" ++ String.intercalate "/" loc)))
  catch
    | .inappropriateType _ _ "Is a directory" => return some .dir
    | _ => return none

/-- The location that a path names from the directory `cwd`. -/
def locationOf (cwd : Location) (path : String) : Location :=
  (Path.components path).foldl FileTree.step (if Path.isAbsolute path then [] else cwd)

/-- The tree with what the disk holds at a path and above it. -/
def load (t : FileTree) (path : String) : IO FileTree := do
  let loc := locationOf t.cwd path
  let mut t := t
  for here in (List.range (loc.length + 1)).map loc.take do
    if (t.node? here).isNone then
      if let some node ← node? here then t := t.set here node
  return t

/-- The tree with all configuration files that arguments lead to. -/
partial def loadConfigFiles (t : FileTree) (args : List String) : IO FileTree := do
  match (ConfigFile.expand t "" args).result with
  | .error (.unreadableConfigFile path) =>
    let loaded ← load t path
    if loaded.isFile path then loadConfigFiles loaded args else return loaded
  | _ => return t

/-- The tree with the input and the outputs of some arguments. An output may be a directory, so
its name is looked at before the names of the files in it. -/
def loadFiles (t : FileTree) (args : Arguments) : IO FileTree := do
  let named := args.input :: args.mockOutput.toList ++ args.expectOutput.toList
  let t ← named.foldlM load t
  (args.earlierOutputs t).foldlM load t

/-- The tree with all that a run may look at. Recorded options may name more files. -/
def loadFor (env : Environment) (t : FileTree) (args : List String) : IO FileTree := do
  let t ← loadConfigFiles t args
  let words := ConfigFile.expand t "" args
  match words.result.bind (Arguments.parse env.defaults) with
  | .error _ => return t
  | .ok first =>
    let t ← loadFiles t first
    match (Command.parse env t args).result with
    | .error _ => return t
    | .ok command => loadFiles t command.toArguments

/-- Writes the files of `after` that `before` does not hold. -/
def store (before after : FileTree) : IO Unit := do
  for (loc, node) in after.entries.reverse do
    if let .file content := node then
      if before.node? loc != some node then
        IO.FS.writeFile ("/" ++ String.intercalate "/" loc) content

end Disk

/-- What is printed on standard output. -/
def Outcome.stdout (o : Outcome) : String :=
  match o.fault with
  | some .helpWanted => helpText
  | some .versionWanted => versionText
  | _ => o.world.stdout

/-- What is printed on standard error. -/
def Outcome.stderr (o : Outcome) : String :=
  match o.fault with
  | none | some .helpWanted | some .versionWanted => o.log
  | some (.usage e) => usageText ++ (Fault.usage e).complaint ++ "\n"
  | some fault => o.log ++ fault.complaint ++ "\n"

/-- The program with a given parser; the result is its exit code. -/
def runCommandLine (parser : Parser) (args : List String) : IO UInt32 := do
  let env : Environment :=
    { libraryFile := ← IO.getEnv "CLANG_LIBRARY_FILE"
      includePath := ← IO.getEnv "CPPUMOCKGEN_INCLUDE" }
  let cwd := Disk.locationOf [] (← IO.currentDir).toString
  let files ← Disk.loadFor env { cwd } args
  let outcome := runProgram env parser { files } args
  Disk.store files outcome.world.files
  IO.print outcome.stdout
  IO.eprint outcome.stderr
  return outcome.exitCode.toUInt32

/-- The answer to every request where no parser is linked to the program. -/
def noParser : Parser := fun _ => { loadError := some "No parser for C and C++ is available." }

end HeaderMock

def main (args : List String) : IO UInt32 :=
  HeaderMock.runCommandLine HeaderMock.noParser args

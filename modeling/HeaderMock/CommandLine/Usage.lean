import HeaderMock.Text.Literal

/-!
# Options of the command line

## Main definitions

* `Opt`: the options; `Opt.spellings` are their names.
* `UsageError`: why arguments make no sense.
-/

namespace HeaderMock

/-- The name of the program. -/
def programName : String := "cppumockgen"

inductive Opt where
  | help
  | mockOutput
  | expectOutput
  | cpp
  | std
  | underlying
  | includePath
  | typeOverride
  | configFile
  | regen
  | libraryFile
  | verbose
  | version
  deriving Repr, DecidableEq

/-- How many values an option takes. -/
inductive Arity where
  | flag
  | one
  | atMostOne
  deriving Repr, DecidableEq

namespace Opt

/-- All options, in the order in which messages name them. -/
def all : List Opt :=
  [.help, .mockOutput, .expectOutput, .cpp, .std, .underlying, .includePath, .typeOverride,
   .configFile, .regen, .libraryFile, .verbose, .version]

theorem mem_all (o : Opt) : o ∈ all := by
  cases o <;> simp [all]

def spellings : Opt → List String
  | .help => ["-h", "--help"]
  | .mockOutput => ["--mock-output", "-m"]
  | .expectOutput => ["--expect-output", "-e"]
  | .cpp => ["--cpp", "-x"]
  | .std => ["--std", "-s"]
  | .underlying => ["--underlying-typedef", "-u"]
  | .includePath => ["--include-path", "-I"]
  | .typeOverride => ["--type-override", "-t"]
  | .configFile => ["--config-file", "-f"]
  | .regen => ["--regen", "-r"]
  | .libraryFile => ["--clang-library-file", "-l"]
  | .verbose => ["--verbose", "-v"]
  | .version => ["--version"]

def arity : Opt → Arity
  | .help | .cpp | .underlying | .regen | .verbose | .version => .flag
  | .std | .includePath | .typeOverride | .configFile | .libraryFile => .one
  | .mockOutput | .expectOutput => .atMostOne

/-- All spellings with their options. -/
def table : List (String × Opt) :=
  all.flatMap fun o => o.spellings.map fun s => (s, o)

def ofSpelling? (s : String) : Option Opt := table.lookup s

/-- An option in messages. -/
def label (o : Opt) : String := String.intercalate "/" o.spellings

end Opt

/-- Why arguments make no sense. -/
inductive UsageError where
  | ambiguous (arg : String) (candidates : List String)
  | expectedOne (opt : Opt)
  | ignoredValue (opt : Opt) (value : String)
  | missingInput
  | unrecognized (args : List String)
  deriving Repr, DecidableEq

def UsageError.message : UsageError → String
  | .ambiguous arg candidates =>
    "ambiguous option: " ++ arg ++ " could match " ++ String.intercalate ", " candidates
  | .expectedOne opt => "argument " ++ opt.label ++ ": expected one argument"
  | .ignoredValue opt value =>
    "argument " ++ opt.label ++ ": ignored explicit argument " ++ Text.literal value
  | .missingInput => "the following arguments are required: input_path"
  | .unrecognized args => "unrecognized arguments: " ++ String.intercalate " " args

end HeaderMock

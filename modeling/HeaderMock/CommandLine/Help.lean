import HeaderMock.CommandLine.Usage

/-!
# The help text

What the program says about its own options.

## Main definitions

* `usageText`: all options in short, in lines of limited width.
* `helpText`: the usage, then every option with its explanation.
-/

namespace HeaderMock

namespace Opt

/-- What an option is good for. -/
def explanation : Opt → String
  | .help => "show this help message and exit"
  | .mockOutput => "mock output directory or file path"
  | .expectOutput => "expectation output directory or file path"
  | .cpp => "force interpretation of the input file as C++"
  | .std => "language standard"
  | .underlying => "use the underlying type of typedefs as parameter-of-type tag"
  | .includePath => "include path"
  | .typeOverride => "override the mocked type of a parameter or return value"
  | .configFile => "read further options from a file"
  | .regen => "reuse the generation options of an existing output file"
  | .libraryFile => "path to the libclang .dll/.so/.dylib"
  | .verbose => "verbose logging"
  | .version => "show program's version number and exit"

/-- The word that stands for the value of an option. -/
def placeholder : Opt → String
  | .mockOutput => "MOCK_OUTPUT"
  | .expectOutput => "EXPECT_OUTPUT"
  | .std => "STD"
  | .includePath => "INCLUDE_PATH"
  | .typeOverride => "TYPE_OVERRIDE"
  | .configFile => "CONFIG_FILE"
  | .libraryFile => "CLANG_LIBRARY_FILE"
  | .help | .cpp | .underlying | .regen | .verbose | .version => ""

/-- A spelling of an option and the value that it takes. -/
def withPlaceholder (o : Opt) (spelling : String) : String :=
  match o.arity with
  | .flag => spelling
  | .one => spelling ++ " " ++ o.placeholder
  | .atMostOne => spelling ++ " [" ++ o.placeholder ++ "]"

/-- The option as a part of the usage, by its first spelling. -/
def inUsage (o : Opt) : String :=
  "[" ++ o.withPlaceholder (o.spellings.headD "") ++ "]"

end Opt

/-- Words in lines of at most `width` characters, as far as single words fit. A line starts with
`column` characters that are not shown, and `line` holds what is on the current one. -/
def fillLines (width column : Nat) : (line : String) → List String → List String
  | line, [] => [line]
  | line, word :: words =>
    if line = "" then fillLines width column word words
    else if column + line.length + 1 + word.length ≤ width then
      fillLines width column (line ++ " " ++ word) words
    else line :: fillLines width column word words

/-- The widest line of the usage. -/
def usageWidth : Nat := 78

/-- All options in short. The input stands on a line of its own. -/
def usageText : String :=
  let start := "usage: " ++ programName ++ " "
  let lines := fillLines usageWidth start.length "" (Opt.all.map Opt.inUsage) ++ ["input_path"]
  let margin := String.ofList (List.replicate start.length ' ')
  start ++ String.intercalate ("\n" ++ margin) lines ++ "\n"

/-- The column that explanations start from. -/
def explanationColumn : Nat := 24

/-- An entry of the help text. The explanation moves to the next line if it would come too close. -/
def helpEntry (subject explanation : String) : String :=
  let spaces (n : Nat) := String.ofList (List.replicate n ' ')
  let width := subject.length + 2
  if width + 2 ≤ explanationColumn then
    "  " ++ subject ++ spaces (explanationColumn - width) ++ explanation ++ "\n"
  else "  " ++ subject ++ "\n" ++ spaces explanationColumn ++ explanation ++ "\n"

def Opt.helpEntry (o : Opt) : String :=
  HeaderMock.helpEntry (String.intercalate ", " (o.spellings.map o.withPlaceholder)) o.explanation

/-- Remarks at the end of the help text. -/
def helpRemarks : List String :=
  ["Output paths may be directories, in which case the file names are",
   "derived from the input file. Use @ to print to stdout.",
   "",
   "Type overrides have the form <key>=<TYPE>[:<ARG>][~<EXPECT_TYPE>][/<ARG_EXPR>],",
   "where <key> is <function>#<param> or <function>@ for a single parameter",
   "or return value, or #<type>/@<type> for every parameter or return value",
   "of a type. In <ARG_EXPR>, $ stands for the parameter.",
   "",
   "Config files hold further options, separated by whitespace. Relative",
   "paths in config files are resolved against the including file.",
   "",
   "The clang-library-file parameter must either be specified using the",
   "command line interface, or by setting the CLANG_LIBRARY_FILE environment",
   "variable."]

def helpText : String :=
  usageText ++ "\nCreate CppUTest mocks and expectations for a C/C++ header\n\n" ++
    "positional arguments:\n" ++ helpEntry "input_path" "path to the mocked header" ++
    "\noptions:\n" ++ String.join (Opt.all.map Opt.helpEntry) ++ "\n" ++
    String.join (helpRemarks.map (· ++ "\n"))

end HeaderMock

import HeaderMock.CommandLine.Usage
import HeaderMock.FileTree
import HeaderMock.Mock
import HeaderMock.Override.Config
import HeaderMock.ShellWords

/-!
# Faults

Why a run ends without its result.

## Main definitions

* `Fault`: the causes.
* `Fault.message`: their texts.
* `Fault.isInternal`: causes that are no mistake of the user.
-/

namespace HeaderMock

inductive Fault where
  | unsupportedType (spelling : String) (location : Option String)
  | noElementType
  /-- A computed exception specification without its keyword. -/
  | noNoexcept
  /-- A member that stands in no scope. -/
  | noOwner
  | slot (fault : SlotFault)
  | config (error : ConfigError)
  /-- A path that cannot even be looked for. -/
  | nullInPath
  | unreadableFile (path : String) (error : FileError)
  | unreadableInput (path : String) (error : FileError)
  | unwritableOutput (path : String) (error : FileError)
  /-- Standard output fails. -/
  | printingFailed (error : SystemError)
  | noParserPath
  | parserFailed (text : String)
  | parserErrors (texts : List String)
  | noLibraryFile
  | nothingMockable (path : String)
  | unreadableConfigFile (path : String)
  | malformedConfigFile (path : String) (error : ShellWords.Error)
  | noRecordedOptions
  | malformedOptions (error : ShellWords.Error)
  | noOutput
  /-- An override option that is given nothing. -/
  | overrideWithoutText
  | usage (error : UsageError)
  | helpWanted
  | versionWanted
  deriving Repr, DecidableEq

namespace Fault

def ofType (location : Option String) : TypeFault → Fault
  | .unsupported spelling => .unsupportedType spelling location
  | .noElement => .noElementType

/-- The fault of a path that cannot be opened: `fault`, unless the path is no path at all. -/
def ofFile (fault : FileError → Fault) : FileError → Fault
  | .nullInPath => .nullInPath
  | e => fault e

def message : Fault → String
  | .unsupportedType spelling location =>
    String.join (location.toList.map (· ++ ": ")) ++ "Unsupported type '" ++ spelling ++ "'"
  | .noElementType => "Element type not available on this type."
  | .noNoexcept => "'noexcept' is not in list"
  | .noOwner => "A member has no enclosing scope"
  | .slot fault => fault.message
  | .config error => error.message
  | .nullInPath => FileError.nullInPath.message
  | .unreadableFile path error => "File '" ++ path ++ "' could not be read: " ++ error.message
  | .unreadableInput path error =>
    "Input file '" ++ path ++ "' could not be read: " ++ error.message
  | .unwritableOutput path error =>
    "Output file '" ++ path ++ "' could not be opened: " ++ error.message
  | .printingFailed error => "[Errno " ++ toString error.code ++ "] " ++ error.text
  | .noParserPath => "translate failed: Parameter 'path' is empty. Expected non-empty string"
  | .parserFailed text => text
  | .parserErrors texts =>
    "Clang failed. Details:\n\n" ++ String.intercalate "\n" (texts.map ("\t" ++ ·))
  | .noLibraryFile =>
    "clang library file path not set. Specify the path to the clang .dll/.so/.dylib using the " ++
      "--clang-library-file command line argument or by setting the environment variable " ++
      "CLANG_LIBRARY_FILE."
  | .nothingMockable path =>
    "The input file '" ++ path ++ "' does not contain any mockable function."
  | .unreadableConfigFile path => "Configuration file '" ++ path ++ "' could not be opened."
  | .malformedConfigFile path error =>
    "In configuration file '" ++ path ++ "': " ++ error.message
  | .noRecordedOptions => "No previously generated output file with generation options found."
  | .malformedOptions error => error.message
  | .noOutput =>
    "At least the mock generation option (-m) or the expectation generation option (-e) must be " ++
      "specified."
  | .overrideWithoutText => "A type override has no text"
  | .usage error => error.message
  | .helpWanted => "help"
  | .versionWanted => "version"

/-- The cause is no mistake of the user. -/
def isInternal : Fault → Bool
  | .noElementType | .noNoexcept | .noOwner | .slot _ | .nullInPath
  | .printingFailed _ | .malformedOptions _ | .overrideWithoutText => true
  | _ => false

end Fault

end HeaderMock

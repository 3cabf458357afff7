import HeaderMock.FileTree
import HeaderMock.Generate
import HeaderMock.Output.Banner
import HeaderMock.Output.UserCode
import HeaderMock.Path

/-!
# Output files

The text of the generated files and the places where they go.

## Main definitions

* `GeneratedUnit.mockFile`, `GeneratedUnit.expectHeader`, `GeneratedUnit.expectSource`: the files.
* `isCppHeader`: whether a header is C++ by its name.
* `mockPath`, `expectPaths`: where the files go.
-/

namespace HeaderMock

/-- The extensions of C++ headers. -/
def cppExtensions : List String := [".hpp", ".hxx", ".hh"]

/-- The header is C++ by its name. -/
def isCppHeader (path : String) : Bool := cppExtensions.contains (Path.extension path)

def includeQuoted (path : String) : String := "#include \"" ++ Path.baseName path ++ "\"\n"

/-- The inclusion of the mocked header; a C header has C linkage. -/
def includeInput (path : String) (cpp : Bool) : String :=
  if cpp then includeQuoted path
  else "extern \"C\" \x7b\n" ++ includeQuoted path ++ "\x7d\n"

def includeMockSupport : String := "#include <CppUTestExt/MockSupport.h>\n"

def includeWrapper : String := "#include <CppUMockGen.hpp>\n"

/-- Texts, each followed by an empty line. -/
def paragraphs (texts : List String) : String := String.join (texts.map (· ++ "\n"))

namespace GeneratedUnit

def mockFile (unit : GeneratedUnit) (input : String) (cpp : Bool) (options userCode : String) :
    String :=
  Banner.render options ++ includeInput input cpp ++ "\n" ++ includeMockSupport ++ "\n" ++
    "// " ++ UserCode.beginMark ++ "\n" ++ userCode ++ "// " ++ UserCode.endMark ++ "\n\n" ++
    paragraphs unit.mocks

def expectHeader (unit : GeneratedUnit) (input : String) (cpp : Bool) (options : String) :
    String :=
  Banner.render options ++ includeWrapper ++ "\n" ++ includeInput input cpp ++ "\n" ++
    includeMockSupport ++ "\n" ++ paragraphs unit.prototypes

def expectSource (unit : GeneratedUnit) (header options : String) : String :=
  Banner.render options ++ includeQuoted header ++ "\n" ++ paragraphs unit.implementations

end GeneratedUnit

/-- The path that stands for standard output. -/
def standardOutput : String := "@"

/-- The base name of the input without its extension. -/
def inputStem (input : String) : String := Path.stem (Path.baseName input)

/-- File names are derived from the input: the path is empty or names a directory. -/
def namesDirectory (t : FileTree) (path : String) : Bool := path == "" || t.isDir path

/-- Where the mock file goes. -/
def mockPath (t : FileTree) (path input : String) : String :=
  if path = standardOutput then path
  else if namesDirectory t path then Path.join path (inputStem input ++ "_mock.cpp")
  else path

/-- Where the header and the source of the expectations go. -/
def expectPaths (t : FileTree) (path input : String) : String × String :=
  if path = standardOutput then (path, path)
  else
    let stem :=
      if namesDirectory t path then Path.join path (inputStem input ++ "_expect")
      else Path.stem path
    (stem ++ ".hpp", stem ++ ".cpp")

/-- The text of a file, or why it cannot be had. -/
def readText (t : FileTree) (path : String) : Except Fault String :=
  (t.read path).mapError (Fault.ofFile (.unreadableFile path))

end HeaderMock

/-!
# Events

What a run reports besides its result.

## Main definitions

* `Event`: something worth reporting.
* `Event.component`, `Event.level`, `Event.message`: who reports it, how serious it is, its text.
* `Event.line`: the event as a line of a log.
-/

namespace HeaderMock

inductive Level where
  | debug
  | info
  | warning
  deriving Repr, DecidableEq

def Level.name : Level → String
  | .debug => "DEBUG"
  | .info => "INFO"
  | .warning => "WARNING"

/-- The parts of the program that report events. -/
inductive Component where
  | signature
  | generator
  | parser
  | commandLine
  deriving Repr, DecidableEq

def Component.name : Component → String
  | .signature => "cppumockgen.signature"
  | .generator => "cppumockgen.generator"
  | .parser => "cppumockgen.translator"
  | .commandLine => "cppumockgen.commandline"

inductive Event where
  /-- A declaration that is not mockable. -/
  | skipped (displayName : String)
  /-- A mockable declaration with an unsupported type. -/
  | notMocked (reason displayName : String)
  | variadicUnchecked (location name : String)
  | listedExceptions (location name : String)
  | parserWarning (text : String)
  | libraryInUse (file : String)
  | generated (path : String)
  | readingConfigFile (path : String)
  | reusingOptions (path : String)
  deriving Repr, DecidableEq

namespace Event

def component : Event → Component
  | .skipped _ | .notMocked _ _ | .generated _ => .generator
  | .variadicUnchecked _ _ | .listedExceptions _ _ => .signature
  | .parserWarning _ | .libraryInUse _ => .parser
  | .readingConfigFile _ | .reusingOptions _ => .commandLine

def level : Event → Level
  | .skipped _ | .libraryInUse _ | .readingConfigFile _ => .debug
  | .generated _ | .reusingOptions _ => .info
  | .notMocked _ _ | .variadicUnchecked _ _ | .listedExceptions _ _ | .parserWarning _ => .warning

def message : Event → String
  | .skipped displayName => "Skipping '" ++ displayName ++ "'"
  | .notMocked reason displayName => reason ++ "; '" ++ displayName ++ "' is not mocked"
  | .variadicUnchecked location name =>
    location ++ ": Variadic arguments of '" ++ name ++ "' are not checked"
  | .listedExceptions location name =>
    location ++ ": Dynamic exception specification of '" ++ name ++
      "' must be completed manually"
  | .parserWarning text => "Parser warning: " ++ text
  | .libraryInUse file => "libclang already loaded, ignoring '" ++ file ++ "'"
  | .generated path => "Generated '" ++ path ++ "'"
  | .readingConfigFile path => "Reading config file '" ++ path ++ "'"
  | .reusingOptions path => "Reusing generation options of '" ++ path ++ "'"

def line (e : Event) : String :=
  e.component.name ++ ": " ++ e.level.name ++ ": " ++ e.message ++ "\n"

end Event

end HeaderMock

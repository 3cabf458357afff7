import HeaderMock.CommandLine.Token
import HeaderMock.Fault

/-!
# Arguments

The settings that a list of arguments makes. Arguments are read from left to right: the first word
is the input, an option takes its value from its own text or from the word after it, and short flags
may be joined.

## Main definitions

* `OptValue`: the value of an option.
* `Settings`: what arguments can set.
* `Arguments`: settings with their input.
* `Arguments.parse`: the reading of a list of arguments.
-/

namespace HeaderMock

/-- The value of an option. It is given nothing where `--` stands in place of a value. -/
inductive OptValue where
  | text (value : String)
  | nothing
  deriving Repr, DecidableEq

namespace OptValue

def text? : OptValue → Option String
  | .text value => some value
  | .nothing => none

/-- The value as a part of a flag; nothing is shown as an empty list. -/
def shown : OptValue → String
  | .text value => value
  | .nothing => "[]"

/-- A value written together with its option. -/
def ofAttached (value : String) : OptValue := if value = "--" then .nothing else .text value

end OptValue

structure Settings where
  mockOutput : Option String := none
  expectOutput : Option String := none
  cpp : Bool := false
  std : Option OptValue := none
  underlying : Bool := false
  includePaths : List OptValue := []
  typeOverrides : List OptValue := []
  configFiles : List OptValue := []
  regen : Bool := false
  libraryFile : Option OptValue := none
  verbose : Bool := false
  deriving Repr, DecidableEq

namespace Settings

/-- The settings after an option with its value; flags do not look at it. An output that is given
nothing is given no path, as if the option stood alone. -/
def set (s : Settings) (value : OptValue) : Opt → Except Fault Settings
  | .help => .error .helpWanted
  | .version => .error .versionWanted
  | .mockOutput => .ok { s with mockOutput := some (value.text?.getD "") }
  | .expectOutput => .ok { s with expectOutput := some (value.text?.getD "") }
  | .cpp => .ok { s with cpp := true }
  | .std => .ok { s with std := some value }
  | .underlying => .ok { s with underlying := true }
  | .includePath => .ok { s with includePaths := s.includePaths ++ [value] }
  | .typeOverride => .ok { s with typeOverrides := s.typeOverrides ++ [value] }
  | .configFile => .ok { s with configFiles := s.configFiles ++ [value] }
  | .regen => .ok { s with regen := true }
  | .libraryFile => .ok { s with libraryFile := some value }
  | .verbose => .ok { s with verbose := true }

end Settings

/-- Joined flags, and the option at their end with the value that follows it in the same text. -/
structure Joined where
  flags : List Opt
  last : Opt
  value? : Option String
  deriving Repr, DecidableEq

namespace Joined

/-- The option `opt` directly followed by `text`: its value, or more short options if it is a
flag. -/
def ofShort : Opt → List Char → Except UsageError Joined
  | opt, text =>
    match opt.arity, text with
    | .flag, [] => .error (.ignoredValue opt "")
    | .flag, c :: rest =>
      match Opt.ofSpelling? (String.ofList ['-', c]), rest with
      | none, _ => .error (.ignoredValue opt (String.ofList (c :: rest)))
      | some next, [] => .ok { flags := [opt], last := next, value? := none }
      | some next, d :: rest =>
        (ofShort next (d :: rest)).map fun joined => { joined with flags := opt :: joined.flags }
    | _, text => .ok { flags := [], last := opt, value? := some (String.ofList text) }

/-- The options of one argument. A long flag takes no value. -/
def ofOption (opt : Opt) (spelling : String) : Option String → Except UsageError Joined
  | none => .ok { flags := [], last := opt, value? := none }
  | some value =>
    if opt.arity = .flag ∧ Text.startsWith spelling "--" then .error (.ignoredValue opt value)
    else ofShort opt value.toList

end Joined

/-- What has been read so far. -/
structure Reading where
  settings : Settings
  input? : Option String := none
  /-- Arguments that nothing takes. -/
  left : List String := []
  deriving Repr, DecidableEq

namespace Reading

def leave (r : Reading) (arg : String) : Reading := { r with left := r.left ++ [arg] }

/-- The flags of a joined option, and then its last option with a value. -/
def apply (r : Reading) (joined : Joined) (value : OptValue) : Except Fault Reading := do
  let settings ← joined.flags.foldlM (fun s flag => s.set .nothing flag) r.settings
  let settings ← settings.set value joined.last
  return { r with settings }

/-- Reads the remaining tokens. -/
def readTokens : Reading → List Token → Except Fault Reading
  | r, [] => .ok r
  | r, .word w :: rest =>
    if r.input?.isSome then readTokens (r.leave w) rest
    else
      match rest with
      | .separator :: rest => readTokens { r with input? := some w } rest
      | rest => readTokens { r with input? := some w } rest
  | r, .separator :: rest =>
    match r.input?, rest with
    | none, .word w :: rest => readTokens { r with input? := some w } rest
    | _, rest => readTokens (r.leave "--") rest
  | r, .unknown text :: rest => readTokens (r.leave text) rest
  | r, .option opt spelling value? :: rest =>
    match Joined.ofOption opt spelling value? with
    | .error e => .error (.usage e)
    | .ok joined =>
      match joined.value?, joined.last.arity, rest with
      | some value, _, rest => do readTokens (← r.apply joined (.ofAttached value)) rest
      | none, .flag, rest => do readTokens (← r.apply joined .nothing) rest
      | none, _, .word value :: rest => do readTokens (← r.apply joined (.text value)) rest
      | none, .atMostOne, rest => do readTokens (← r.apply joined .nothing) rest
      | none, .one, _ => .error (.usage (.expectedOne joined.last))

end Reading

/-- The settings and the input of a list of arguments. -/
structure Arguments extends Settings where
  input : String
  deriving Repr, DecidableEq

/-- Reads arguments. -/
def Arguments.parse (defaults : Settings) (args : List String) : Except Fault Arguments := do
  let tokens ← (Token.ofArgs args).mapError Fault.usage
  let r ← Reading.readTokens { settings := defaults } tokens
  match r.input?, r.left with
  | none, _ => .error (.usage .missingInput)
  | some input, [] => .ok { r.settings with input }
  | some _, left => .error (.usage (.unrecognized left))

end HeaderMock

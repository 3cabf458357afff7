import HeaderMock.Override.Template
import HeaderMock.Slot.Kind

/-!
# Overrides

An override replaces the classification of a slot. It is written

    key=TYPE[:ARG][~EXPECT_TYPE][/ARG_EXPR]

where the key names a parameter, a result or a type, and `@` stands for results.

## Main definitions

* `Override`: what replaces a classification.
* `Override.parse`: the key and the override of an option.
* `OverrideError`: why an option is refused.
-/

namespace HeaderMock

/-- The slot that an override asks for. -/
inductive OverrideKind where
  | value (kind : ValueKind)
  | output
  | inputOfType (typeName : String)
  | outputOfType (typeName : String)
  | inputPod
  | outputPod
  | memoryBuffer (size : Template)
  | skip
  deriving Repr, DecidableEq

namespace OverrideKind

def slot : OverrideKind → SlotKind
  | .value kind => .value kind
  | .output => .output
  | .inputOfType _ => .inputOfType
  | .outputOfType _ => .outputOfType
  | .inputPod => .inputPod
  | .outputPod => .outputPod
  | .memoryBuffer _ => .memoryBuffer
  | .skip => .skip

/-- The name under which objects of the slot's type are registered. -/
def typeName? : OverrideKind → Option String
  | .inputOfType name => some name
  | .outputOfType name => some name
  | _ => none

/-- The byte count of a memory buffer. -/
def size : OverrideKind → Template
  | .memoryBuffer size => size
  | _ => {}

end OverrideKind

structure Override where
  kind : OverrideKind
  /-- The expression around the argument or the returned value. -/
  expr : Template := .hole
  /-- The type that the expectation helper takes. -/
  expectType : Option String := none
  deriving Repr, DecidableEq

/-- What is wrong with an option. -/
inductive OverrideProblem where
  | noSpec
  | emptyKey
  | emptySpec
  | emptyExpr
  | noPlaceholder
  | emptyExpectType
  | emptyType
  | missingArgument (type : String)
  | unknownType
  | notForResults (type : String)
  deriving Repr, DecidableEq

/-- An option that is refused. -/
structure OverrideError where
  problem : OverrideProblem
  option : String
  deriving Repr, DecidableEq

def OverrideProblem.text : OverrideProblem → String
  | .noSpec => "Invalid override option"
  | .emptyKey => "Override option key cannot be empty"
  | .emptySpec => "Override option spec cannot be empty"
  | .emptyExpr => "Override option argument expression cannot be empty if specified"
  | .noPlaceholder =>
    "Override option argument expression does not contain parameter name placeholder ($)"
  | .emptyExpectType => "Override option expectation type cannot be empty if specified"
  | .emptyType => "Override option type cannot be empty"
  | .missingArgument type => "Override option type '" ++ type ++ "' requires an argument"
  | .unknownType => "Invalid override option type"
  | .notForResults type =>
    "Override option type '" ++ type ++ "' cannot be applied to return types"

def OverrideError.message (e : OverrideError) : String :=
  e.problem.text ++ " <" ++ e.option ++ ">."

namespace Override

/-- The key names a result. -/
def isResultKey (key : String) : Bool :=
  Text.startsWith key "@" || Text.endsWithChar key '@'

/-- The types that stand alone. -/
def simpleKinds : List (String × OverrideKind) :=
  [("Bool", .value .bool), ("Int", .value .int), ("UnsignedInt", .value .unsignedInt),
   ("Long", .value .long), ("LongInt", .value .long), ("UnsignedLong", .value .unsignedLong),
   ("UnsignedLongInt", .value .unsignedLong), ("Double", .value .double),
   ("String", .value .string), ("Pointer", .value .pointer),
   ("ConstPointer", .value .constPointer), ("Output", .output), ("InputPOD", .inputPod),
   ("OutputPOD", .outputPod), ("Skip", .skip)]

/-- The type that takes the argument `arg`, if `type` names one. -/
def argumentKind? (type arg : String) : Option OverrideKind :=
  if type = "InputOfType" then some (.inputOfType arg)
  else if type = "OutputOfType" then some (.outputOfType arg)
  else if type = "MemoryBuffer" then some (.memoryBuffer (.ofText arg))
  else none

/-- `key=spec` -/
def splitKey (option : String) : Except OverrideProblem (String × String) :=
  match Text.cutAt '=' option with
  | (_, none) => .error .noSpec
  | (key, some spec) =>
    if key = "" then .error .emptyKey
    else if spec = "" then .error .emptySpec
    else .ok (key, spec)

/-- `front[/ARG_EXPR]`; without an expression the value stands for itself. -/
def splitExpr (spec : String) : Except OverrideProblem (String × Template) :=
  match Text.cutAt '/' spec with
  | (front, none) => .ok (front, .hole)
  | (front, some expr) =>
    if expr = "" then .error .emptyExpr
    else if (Template.ofText expr).back?.isNone then .error .noPlaceholder
    else .ok (front, .ofText expr)

/-- `front[~EXPECT_TYPE]` -/
def splitExpectType (spec : String) : Except OverrideProblem (String × Option String) :=
  match Text.cutAt '~' spec with
  | (front, none) => .ok (front, none)
  | (front, some type) =>
    if type = "" then .error .emptyExpectType else .ok (front, some type)

/-- `TYPE[:ARG]`, with the name of the type. -/
def readKind (spec : String) : Except OverrideProblem (String × OverrideKind) :=
  let (type, arg) := Text.cutAt ':' spec
  if type = "" then .error .emptyType
  else
    match arg, simpleKinds.lookup type, argumentKind? type (arg.getD "") with
    | none, some kind, _ => .ok (type, kind)
    | _, _, some kind =>
      if arg.getD "" = "" then .error (.missingArgument type) else .ok (type, kind)
    | _, _, none => .error .unknownType

def parseParts (option : String) : Except OverrideProblem (String × Override) := do
  let (key, spec) ← splitKey option
  let (spec, expr) ← splitExpr spec
  let (spec, expectType) ← splitExpectType spec
  let (type, kind) ← readKind spec
  if isResultKey key && !kind.slot.isValue then .error (.notForResults type)
  else .ok (key, { kind, expr, expectType })

/-- The key and the override that an option gives. -/
def parse (option : String) : Except OverrideError (String × Override) :=
  (parseParts option).mapError fun problem => { problem, option }

end Override

end HeaderMock

import HeaderMock.Code.Matcher
import HeaderMock.Layout
import HeaderMock.Signature.Basic

/-!
# Mocks

The definition that takes the place of a mocked declaration: it reports the call to the mock library
and gives back what the library answers.

## Main definitions

* `SlotFault`: a slot that no code can be written for.
* `ActualCall`, `ReadBack`: the call that is reported, and how its answer is read.
* `Signature.mock`: the mock of a signature; `Mock.render` is its text.
-/

namespace HeaderMock

/-- A slot that no code can be written for. -/
inductive SlotFault where
  | unexpected (kind : SlotKind) (parameter : String)
  /-- Nothing says how the mock reports the parameter. -/
  | unreported (parameter : String)
  /-- Nothing says how the helpers check the parameter. -/
  | unchecked (parameter : String)
  | notReturnable (kind : SlotKind)
  deriving Repr, DecidableEq

/-- The name of a slot kind in messages. -/
def SlotKind.label : SlotKind → String
  | .value .bool => "BOOL"
  | .value .int => "INT"
  | .value .unsignedInt => "UNSIGNED_INT"
  | .value .long => "LONG"
  | .value .unsignedLong => "UNSIGNED_LONG"
  | .value .double => "DOUBLE"
  | .value .string => "STRING"
  | .value .pointer => "POINTER"
  | .value .constPointer => "CONST_POINTER"
  | .output => "OUTPUT"
  | .inputOfType => "INPUT_OF_TYPE"
  | .outputOfType => "OUTPUT_OF_TYPE"
  | .inputPod => "INPUT_POD"
  | .outputPod => "OUTPUT_POD"
  | .memoryBuffer => "MEMORY_BUFFER"
  | .skip => "SKIP"

def SlotFault.message : SlotFault → String
  | .unexpected kind parameter =>
    "Unexpected classification MockedType." ++ kind.label ++ " of '" ++ parameter ++ "'"
  | .unreported parameter => "No report of '" ++ parameter ++ "'"
  | .unchecked parameter => "No check of '" ++ parameter ++ "'"
  | .notReturnable kind => "No value of kind " ++ kind.name ++ " can be returned"

/-- The value that a slot holds. -/
def SlotKind.returned : SlotKind → Except SlotFault ValueKind
  | .value kind => .ok kind
  | kind => .error (.notReturnable kind)

/-- A call reported to the mock library. -/
structure ActualCall where
  name : String
  receiver : Option Expr := none
  matchers : List ActualMatcher := []
  deriving Repr, DecidableEq

def ActualCall.render (c : ActualCall) : String :=
  "mock()" ++ methodCall "actualCall" [quoted c.name] ++
    String.join (c.receiver.toList.map fun e => methodCall "onObject" [e.render]) ++
    String.join (c.matchers.map ActualMatcher.render)

/-- How the value that a call gives back is read and turned into the declared type. -/
structure ReadBack where
  kind : ValueKind
  wraps : List Wrap := []
  deriving Repr, DecidableEq

def ReadBack.render (r : ReadBack) (call : String) : String :=
  Wrap.applyAll r.wraps (call ++ methodCall ("return" ++ r.kind.apiName ++ "Value") [])

structure Mock where
  /-- Everything in front of the body. -/
  head : String
  call : ActualCall
  readBack : Option ReadBack := none
  deriving Repr, DecidableEq

/-- The one statement of the body. -/
def Mock.statement (m : Mock) : String :=
  match m.readBack with
  | some r => "return " ++ r.render m.call.render ++ ";"
  | none => m.call.render ++ ";"

def Mock.render (m : Mock) : String :=
  m.head ++ "\n" ++ Layout.block [m.statement]

/-- The report of a classified parameter `name`. -/
def Classification.actualMatcher (c : Classification) (name : String) :
    Except SlotFault ActualMatcher :=
  let e := ((Expr.mk name []).wrapIf c.byAddress .addressOf).wrapIf c.castRequired
    (.staticCast (nameOrNone c.castType))
  match c.kind with
  | .value kind => .ok (.value kind name e)
  | .output => .ok (.output name e)
  | .inputOfType => .ok (.inputOfType (nameOrNone c.tag) name e)
  | .outputOfType => .ok (.outputOfType (nameOrNone c.tag) name e)
  | kind => .error (.unexpected kind name)

/-- The report of an overridden parameter `name`; a skipped one has none. -/
def Override.actualMatcher? (o : Override) (name : String) : Option ActualMatcher :=
  let e : Expr := { base := name, wraps := [.inside o.expr] }
  match o.kind with
  | .value kind => some (.value kind name e)
  | .output | .outputPod => some (.output name e)
  | .inputOfType tag => some (.inputOfType tag name e)
  | .outputOfType tag => some (.outputOfType tag name e)
  | .inputPod => some (.memoryBuffer name e.asBytes (e.wrap .sizeOfTarget))
  | .memoryBuffer size =>
    some (.memoryBuffer name e.asBytes { base := name, wraps := [.inside size] })
  | .skip => none

/-- The report of a parameter, if it has one. -/
def Parameter.actualMatcher? (p : Parameter) : Except SlotFault (Option ActualMatcher) :=
  match p.override, p.classification with
  | some spec, _ => .ok (spec.actualMatcher? p.name)
  | none, some c => (c.actualMatcher p.name).map some
  | none, none => .error (.unreported p.name)

/-- What a classified value goes through on its way back. -/
def Classification.readBackWraps (c : Classification) : List Wrap :=
  (if c.castRequired then [.staticCast (nameOrNone c.castType)] else []) ++
    (if c.byAddress then [.deref] else []) ++
    (if c.reference = .rvalue then [.move] else []) ++
    (if c.typedefCast then [.staticCast c.rendered] else [])

namespace Signature

/-- Result type, name, parameters and qualifiers of the mock. -/
def head (sig : Signature) : String :=
  let params := sig.parameters.map (·.declaration) ++ (if sig.isVariadic then ["..."] else [])
  let result :=
    match sig.routine with
    | .function | .method => sig.resultSpelling ++ " "
    | .constructor | .destructor => ""
  result ++ sig.qualifiedName ++ "(" ++ Layout.commaSeparated params ++ ")" ++
    (if sig.isConst then " const" else "") ++
    (if sig.exceptionSpec = .none then "" else " " ++ sig.exceptionSpec.text)

/-- The object that the mock is called on. -/
def receiver? (sig : Signature) : Option Expr :=
  if sig.isMethod then
    some ((Expr.mk "this" []).wrapIf sig.isConst (.constCast (sig.owner ++ "*")))
  else none

/-- The reports of all parameters, in order. -/
def actualMatchers (sig : Signature) : Except SlotFault (List ActualMatcher) :=
  (sig.parameters.mapM Parameter.actualMatcher?).map (·.filterMap id)

def readBack? (sig : Signature) : Except SlotFault (Option ReadBack) :=
  match sig.resultOverride, sig.result with
  | some spec, _ =>
    spec.kind.slot.returned.map fun kind => some { kind, wraps := [.inside spec.expr] }
  | none, some c => c.kind.returned.map fun kind => some { kind, wraps := c.readBackWraps }
  | none, none => .ok none

/-- The mock of a declaration. -/
def mock (sig : Signature) : Except SlotFault Mock := do
  let matchers ← sig.actualMatchers
  let readBack ← sig.readBack?
  return { head := sig.head, readBack
           call := { name := sig.qualifiedName, receiver := sig.receiver?, matchers } }

end Signature

end HeaderMock

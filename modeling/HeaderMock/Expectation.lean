import HeaderMock.Decl.Scope
import HeaderMock.Mock

/-!
# Expectation helpers

Each mocked declaration has two helpers in the `expect` namespace: one expects a single call, the
other a number of calls, and the first one forwards to the second. Wrapped arguments may be given as
ignored, and are then not checked.

## Main definitions

* `HelperSlot`: the formals and the check of one parameter.
* `Statement`: a statement of the helper for a number of calls.
* `HelperHeads`: what the declarations of the pair of helpers need.
* `Helpers`: the pair of helpers of a declaration.
* `HelperHeads.prototypes`, `Helpers.implementations`: their texts.
-/

namespace HeaderMock

/-- A parameter of a helper. -/
structure Formal where
  type : String
  name : String
  default? : Option String := none
  deriving Repr, DecidableEq

def Formal.render (f : Formal) : String :=
  f.type ++ " " ++ f.name ++ String.join (f.default?.toList.map (" = " ++ ·))

namespace Helper

/-! ## Names in helpers -/

def callType : String := "MockExpectedCall&"
def numCalls : String := "__numCalls__"
def object : String := "__object__"
def returnValue : String := "__return__"
def expectedCall : String := "__expectedCall__"
def ignoreOthers : String := "__ignoreOtherParams__"

/-- The size of the buffer `name`. -/
def sizeOf (name : String) : String := "__sizeof_" ++ name

/-- An argument that may be ignored. -/
def wrapper (type : String) : String := "CppUMockGen::Parameter<" ++ type ++ ">"

/-- The argument that is ignored. -/
def ignored : String := "::CppUMockGen::IgnoreParameter::YES"

end Helper

/-- The formals and the check of one parameter. -/
structure HelperSlot where
  name : String
  type : String
  /-- The argument may be ignored. -/
  isWrapped : Bool := true
  /-- The size is a formal of its own. -/
  isSized : Bool := false
  matcher : ExpectedMatcher
  deriving Repr, DecidableEq

namespace HelperSlot

def formals (s : HelperSlot) : List Formal :=
  { type := if s.isWrapped then Helper.wrapper s.type else s.type, name := s.name } ::
    if s.isSized then [{ type := "size_t", name := Helper.sizeOf s.name }] else []

/-- The arguments that are forwarded. -/
def names (s : HelperSlot) : List String :=
  s.name :: if s.isSized then [Helper.sizeOf s.name] else []

end HelperSlot

/-- A statement of the helper for a number of calls. -/
inductive Statement where
  | declareFlag
  | openCall (name : String)
  | onObject (owner : String)
  | check (matcher : ExpectedMatcher)
  | checkUnlessIgnored (arg : String) (matcher : ExpectedMatcher)
  | checkOrFlag (arg : String) (matcher : ExpectedMatcher)
  | andReturn (e : Expr)
  | ignoreOthers
  | ignoreOthersIfFlagged
  | finish
  deriving Repr, DecidableEq

namespace Statement

/-- A call on the expected call. -/
def onCall (call : String) : String := Helper.expectedCall ++ call ++ ";"

/-- A statement between braces on one line. -/
def braced (s : String) : String := "\x7b " ++ s ++ " \x7d"

def render : Statement → String
  | .declareFlag => "bool " ++ Helper.ignoreOthers ++ " = false;"
  | .openCall name =>
    Helper.callType ++ " " ++ Helper.expectedCall ++ " = mock()" ++
      methodCall "expectNCalls" [Helper.numCalls, quoted name] ++ ";"
  | .onObject owner =>
    let e : Expr := { base := Helper.object, wraps := [.getValue, .constCast (owner ++ "*")] }
    "if(!" ++ Helper.object ++ ".isIgnored()) " ++
      braced (onCall (methodCall "onObject" [e.render]))
  | .check matcher => onCall matcher.render
  | .checkUnlessIgnored arg matcher =>
    "if (!" ++ arg ++ ".isIgnored()) " ++ braced (onCall matcher.render)
  | .checkOrFlag arg matcher =>
    "if (" ++ arg ++ ".isIgnored()) " ++ braced (Helper.ignoreOthers ++ " = true;") ++
      " else " ++ braced (onCall matcher.render)
  | .andReturn e => onCall (methodCall "andReturnValue" [e.render])
  | .ignoreOthers => onCall (methodCall "ignoreOtherParameters" [])
  | .ignoreOthersIfFlagged =>
    "if (" ++ Helper.ignoreOthers ++ ") " ++
      braced (onCall (methodCall "ignoreOtherParameters" []))
  | .finish => "return " ++ Helper.expectedCall ++ ";"

end Statement

/-- The heads of the pair of helpers of a declaration. -/
structure HelperHeads where
  name : String
  /-- The scopes around the declaration, outermost first. -/
  namespaces : List String
  /-- The class of the object that calls are made on. -/
  owner? : Option String := none
  /-- The object is ignored unless it is given. -/
  ignoresObject : Bool := false
  slots : List HelperSlot
  /-- The type of the value to return. -/
  returnType? : Option String := none
  deriving Repr, DecidableEq

/-- The pair of helpers of a declaration. -/
structure Helpers extends HelperHeads where
  /-- The name of the expected call. -/
  call : String
  /-- Some parameter is never checked. -/
  isSkipping : Bool := false
  /-- The value to return, in the library's type. -/
  returnExpr? : Option Expr := none
  deriving Repr, DecidableEq

namespace HelperHeads

/-- The formals of the helper for a single call. -/
def formals (h : HelperHeads) (withDefaults : Bool) : List Formal :=
  (h.owner?.toList.map fun owner =>
      { type := Helper.wrapper ("const " ++ owner ++ "*"), name := Helper.object
        default? := if withDefaults && h.ignoresObject then some Helper.ignored else none }) ++
    h.slots.flatMap (·.formals) ++
    h.returnType?.toList.map fun type => { type, name := Helper.returnValue }

/-- The formals of the helper for a number of calls. -/
def formalsMany (h : HelperHeads) (withDefaults : Bool) : List Formal :=
  { type := "unsigned int", name := Helper.numCalls } :: h.formals withDefaults

/-- What the helper for a single call passes on. -/
def forwarded (h : HelperHeads) : List String :=
  "1" :: (h.owner?.toList.map fun _ => Helper.object) ++ h.slots.flatMap (·.names) ++
    h.returnType?.toList.map fun _ => Helper.returnValue

/-- The head of a helper. -/
def signatureText (h : HelperHeads) (formals : List Formal) : String :=
  Helper.callType ++ " " ++ h.name ++ "(" ++
    Layout.commaSeparated (formals.map Formal.render) ++ ")"

/-- The declarations of both helpers. -/
def prototypes (h : HelperHeads) : String :=
  inExpectNamespaces
    (h.signatureText (h.formals true) ++ ";\n" ++ h.signatureText (h.formalsMany true) ++ ";\n")
    h.namespaces

end HelperHeads

namespace Helpers

/-- Ignored arguments have to be remembered. -/
def tracksIgnored (h : Helpers) : Bool := !h.isSkipping && h.slots.any (·.isWrapped)

/-- The check of one parameter. -/
def checkSlot (h : Helpers) (s : HelperSlot) : Statement :=
  if !s.isWrapped then .check s.matcher
  else if h.isSkipping then .checkUnlessIgnored s.name s.matcher
  else .checkOrFlag s.name s.matcher

/-- The helper for a number of calls. -/
def body (h : Helpers) : List Statement :=
  (if h.tracksIgnored then [.declareFlag] else []) ++ [.openCall h.call] ++
    h.owner?.toList.map Statement.onObject ++ h.slots.map h.checkSlot ++
    h.returnExpr?.toList.map Statement.andReturn ++
    (if h.isSkipping then [.ignoreOthers]
      else if h.tracksIgnored then [.ignoreOthersIfFlagged] else []) ++
    [.finish]

/-- The definitions of both helpers. -/
def implementations (h : Helpers) : String :=
  inExpectNamespaces
    (h.signatureText (h.formals false) ++ "\n" ++
      Layout.block ["return " ++ h.name ++ "(" ++ Layout.commaSeparated h.forwarded ++ ");"] ++
      h.signatureText (h.formalsMany false) ++ "\n" ++
      Layout.block (h.body.map Statement.render))
    h.namespaces

end Helpers

/-! ## Slots of parameters -/

/-- The value inside the wrapped argument `name`. -/
def Helper.argument (name : String) : Expr := { base := name, wraps := [.getValue] }

/-- An output of unknown size, given as pointer and size. -/
def HelperSlot.buffer (name : String) : HelperSlot :=
  { name
    type := ValueKind.constPointer.nativeType
    isWrapped := false
    isSized := true
    matcher := .outputReturning name { base := name } { base := Helper.sizeOf name } }

/-- An output that is copied from the target of a pointer. -/
def HelperSlot.output (name type : String) : HelperSlot :=
  let e := Helper.argument name
  { name, type, matcher := .outputReturning name e (e.wrap .sizeOfTarget) }

/-- The slot of a classified parameter `name`. -/
def Classification.helperSlot (c : Classification) (name : String) : HelperSlot :=
  let e := Helper.argument name
  -- Records passed by value are held by reference.
  let object := e.wrapIf (c.byAddress && !c.pointerLike) .addressOf
  match c.kind with
  | .value kind =>
    { name, type := c.valueType
      matcher := .value kind name (e.wrapIf c.castRequired (.staticCast (nameOrNone c.castType))) }
  | .output => if c.sized then .buffer name else .output name c.valueType
  | .inputOfType =>
    { name, type := c.valueType, matcher := .inputOfType (nameOrNone c.tag) name object }
  | _ =>
    { name, type := c.valueType, matcher := .outputOfTypeReturning (nameOrNone c.tag) name object }

/-- The type that a pointer or reference parameter refers to, without `const`. -/
def Parameter.pointedType (p : Parameter) : String :=
  Spelling.withoutConst <| p.targetSpelling.getD <|
    String.ofList (Text.dropRight (fun c => c == ' ' || c == '*' || c == '&') p.typeSpelling.toList)

/-- The slot of an overridden parameter; a skipped one has none. -/
def Override.helperSlot? (o : Override) (p : Parameter) : Option HelperSlot :=
  let name := p.name
  let e := Helper.argument name
  match o.kind with
  | .value kind =>
    some { name, type := o.expectType.getD kind.nativeType, matcher := .value kind name e }
  | .output =>
    match o.expectType with
    | none => some (.buffer name)
    | some type => some (.output name (Spelling.constPointerTo type))
  | .inputOfType tag =>
    some
      { name, type := Spelling.constPointerTo (o.expectType.getD tag)
        matcher := .inputOfType tag name e }
  | .outputOfType tag =>
    some
      { name, type := Spelling.constPointerTo (o.expectType.getD tag)
        matcher := .outputOfTypeReturning tag name e }
  | .inputPod =>
    some
      { name, type := Spelling.constPointerTo (o.expectType.getD p.pointedType)
        matcher := .memoryBuffer name e.asBytes (e.wrap .sizeOfTarget) }
  | .outputPod => some (.output name (Spelling.constPointerTo (o.expectType.getD p.pointedType)))
  | .memoryBuffer _ =>
    let (type, bytes) :=
      match o.expectType with
      | none => (ValueKind.constPointer.nativeType, e.wrap (.staticCast "const unsigned char *"))
      | some type => (Spelling.constPointerTo type, e.asBytes)
    some
      { name, type, isSized := true
        matcher := .memoryBuffer name bytes { base := Helper.sizeOf name } }
  | .skip => none

/-- The slot of a parameter, if it has one. -/
def Parameter.helperSlot? (p : Parameter) : Except SlotFault (Option HelperSlot) :=
  if p.isSkipped then .ok none
  else
    match p.override, p.classification with
    | some spec, _ => .ok (spec.helperSlot? p)
    | none, some c => .ok (some (c.helperSlot p.name))
    | none, none => .error (.unchecked p.name)

/-- The value that a helper hands over as the answer to a call. -/
def Classification.returnedExpr (c : Classification) (kind : ValueKind) : Expr :=
  (Expr.mk Helper.returnValue []).wrapIf c.byAddress .addressOf
    |>.wrapIf (c.byAddress || c.castRequired) (.staticCast kind.nativeType)

namespace Signature

/-- The slots of all parameters, in order. -/
def helperSlots (sig : Signature) : Except SlotFault (List HelperSlot) :=
  (sig.parameters.mapM Parameter.helperSlot?).map (·.filterMap id)

/-- The type of the result in a helper. -/
def returnType? (sig : Signature) : Except SlotFault (Option String) :=
  match sig.resultOverride, sig.result with
  | some spec, _ =>
    match spec.expectType with
    | some type => .ok (some type)
    | none => spec.kind.slot.returned.map fun kind => some kind.nativeType
  | none, some c => .ok (some c.valueType)
  | none, none => .ok none

/-- The value of the result in a helper. -/
def returnExpr? (sig : Signature) : Except SlotFault (Option Expr) :=
  match sig.resultOverride, sig.result with
  | some _, _ => .ok (some { base := Helper.returnValue })
  | none, some c => c.kind.returned.map fun kind => some (c.returnedExpr kind)
  | none, none => .ok none

/-- The heads of the helpers of a declaration. -/
def helperHeads (sig : Signature) : Except SlotFault HelperHeads := do
  let slots ← sig.helperSlots
  let returnType? ← sig.returnType?
  return { name := sig.helperName
           namespaces := sig.namespaces
           owner? := if sig.isMethod then some sig.owner else none
           ignoresObject := sig.routine == .destructor
           slots
           returnType? }

/-- The helpers of a declaration. -/
def helpers (sig : Signature) : Except SlotFault Helpers := do
  let heads ← sig.helperHeads
  let returnExpr? ← sig.returnExpr?
  return { toHelperHeads := heads
           call := sig.qualifiedName
           isSkipping := sig.parameters.any (·.isSkipped)
           returnExpr? }

end Signature

end HeaderMock

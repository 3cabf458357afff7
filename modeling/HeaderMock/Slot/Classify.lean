import HeaderMock.CType.Spelling
import HeaderMock.Slot.Classification

/-!
# Classification of types

Each result type and each parameter type is mapped onto the mock library, or is unsupported.

## Main definitions

* `CType.classifyResult`: the classification of a result; `void` has none.
* `CType.classifyArgument`: the classification of a parameter.
-/

namespace HeaderMock

/-- The value that holds a scalar, and whether the scalar is narrower than this value. -/
def TypeKind.scalar? : TypeKind → Option (ValueKind × Bool)
  | .bool => some (.bool, false)
  | .int => some (.int, false)
  | .unsignedInt => some (.unsignedInt, false)
  | .short => some (.int, true)
  | .unsignedShort => some (.unsignedInt, true)
  | .plainSignedChar => some (.int, true)
  | .plainUnsignedChar => some (.int, true)
  | .signedChar => some (.int, true)
  | .unsignedChar => some (.unsignedInt, true)
  | .long => some (.long, false)
  | .unsignedLong => some (.unsignedLong, false)
  | .float => some (.double, true)
  | .double => some (.double, false)
  | .wideChar => some (.int, true)
  | .char16 => some (.unsignedInt, true)
  | .char32 => some (.unsignedLong, true)
  | _ => none

/-- Scalars and enumerators, which are handed over by value. -/
def TypeKind.isScalarOrEnum (k : TypeKind) : Bool :=
  k.scalar?.isSome || k == .enumeration

/-- A pointer value that says whether its target is constant. -/
def ValueKind.pointerTo (isConst : Bool) : ValueKind :=
  if isConst then .constPointer else .pointer

namespace CType

/-- The fault of a type that the mock library has no slot for. -/
def unsupported (t : CType) : TypeFault := .unsupported t.spelling

/-! ## Results -/

/-- Objects are returned through a pointer to an expected instance. -/
def recordResult (t : CType) : Classification :=
  let value := Spelling.withoutConst t.spelling
  { kind := .value .constPointer
    rendered := t.spelling
    castRequired := true
    castType := some ("const " ++ value ++ "*")
    byAddress := true
    isConst := true
    tag := some (Spelling.bare value)
    valueType := "const " ++ value ++ " &" }

/-- A result that is held as `kind`, and cast back if `narrow`. -/
def scalarResult (t : CType) (kind : ValueKind) (narrow : Bool) : Classification :=
  { kind := .value kind
    rendered := t.spelling
    castRequired := narrow
    castType := if narrow then some t.spelling else none
    isConst := t.isConst
    valueType := t.spelling }

def pointerResult (t : CType) : Except TypeFault Classification :=
  let pointee := t.pointee
  let isConst := pointee.isConstAnywhere
  let result : Classification :=
    { kind := .value (.pointerTo isConst)
      rendered := t.spelling
      isConst
      pointerLike := true
      valueType := t.spelling }
  if pointee.canonical.kind = .function then .error t.unsupported
  else if pointee.desugar.kind = .void then .ok result
  else if pointee.desugar.kind.isCharacter ∧ isConst then .ok { result with kind := .value .string }
  else .ok { result with castRequired := true, castType := some (pointee.spelling ++ "*") }

def referenceResult (t : CType) : Except TypeFault Classification :=
  let pointee := t.pointee
  let isConst := pointee.isConstAnywhere
  if pointee.canonical.kind = .function then .error t.unsupported
  else .ok
    { kind := .value (.pointerTo isConst)
      rendered := t.spelling
      castRequired := true
      castType := some (pointee.spelling ++ "*")
      byAddress := true
      isConst
      pointerLike := true
      reference := t.desugar.kind.reference
      valueType := pointee.spelling ++ " &" }

/-- The value that holds a pointer to `target` hidden behind a typedef. -/
def hiddenPointer (target : CType) : ValueKind :=
  if target.kind.isCharacter && target.isConst then .string else .pointerTo target.isConst

def typedefResult (t : CType) : Except TypeFault Classification :=
  let canonical := t.canonical
  let target := canonical.pointee
  if canonical.kind = .record then .ok t.recordResult
  else if let some (kind, _) := canonical.kind.scalar? then .ok (t.scalarResult kind true)
  else if canonical.kind = .enumeration then .ok (t.scalarResult .int true)
  else if canonical.kind = .pointer then
    if target.kind = .function then .error t.unsupported
    else .ok { t.scalarResult (hiddenPointer target) true with pointerLike := true }
  else if canonical.kind.isReference then
    .ok
      { t.scalarResult (.pointerTo target.isConst) true with
        castType := some (target.spelling ++ "*")
        byAddress := true
        pointerLike := true
        reference := canonical.kind.reference
        typedefCast := true
        valueType := target.spelling ++ " &" }
  else .error t.unsupported

/-- The classification of a result type; nothing crosses for `void`. -/
def classifyResult (t : CType) : Except TypeFault (Option Classification) :=
  let kind := t.desugar.kind
  if t.isVoid then .ok none
  else Except.map some <|
    if t.isTypedef then t.typedefResult
    else if let some (value, narrow) := kind.scalar? then .ok (t.scalarResult value narrow)
    else if kind = .enumeration then .ok (t.scalarResult .int true)
    else if kind = .pointer then t.pointerResult
    else if kind.isReference then t.referenceResult
    else if t.isRecord then .ok t.recordResult
    else .error t.unsupported

/-! ## Arguments -/

/-- The name under which objects of the type are registered. -/
def tagName (t : CType) (underlying : Bool) : String :=
  Spelling.bare (if underlying then t.canonical.spelling else t.spelling)

def scalarArgument (t : CType) (kind : ValueKind) : Classification :=
  { kind := .value kind, rendered := t.spelling, isConst := t.isConst, valueType := t.spelling }

def enumArgument (t : CType) : Classification :=
  { t.scalarArgument .int with castRequired := true, castType := some "int" }

def recordArgument (t : CType) (underlying : Bool) : Classification :=
  { kind := .inputOfType
    rendered := t.spelling
    byAddress := true
    isConst := t.isConst
    tag := some (t.tagName underlying)
    valueType := "const " ++ Spelling.withoutConst t.spelling ++ "&" }

/-- A pointer or reference parameter, spelled `rendered`, by its target. A reference is passed by
address, so that the helper takes a pointer to the target. -/
def targetArgument (target : CType) (rendered : String) (byReference underlying : Bool) :
    Except TypeFault Classification :=
  let kind := target.canonical.kind
  let isConst := target.isConstAnywhere
  let pointerType := if byReference then target.spelling ++ " *" else rendered
  let result : Classification :=
    { kind := .output, rendered, byAddress := byReference, isConst, pointerLike := true }
  if kind = .void then
    .ok { result with kind := .value (.pointerTo isConst), valueType := pointerType }
  else if kind = .record then
    .ok
      { result with
        kind := if isConst then .inputOfType else .outputOfType
        tag := some (target.tagName underlying)
        valueType := Spelling.constPointerTo (Spelling.withoutConst target.spelling) }
  else if kind.isScalarOrEnum ∨ kind = .pointer then
    if isConst ∧ ¬byReference ∧ target.desugar.kind.isCharacter then
      .ok { result with kind := .value .string, valueType := rendered }
    else if isConst then
      .ok { result with kind := .value .constPointer, valueType := pointerType }
    else if ¬byReference ∧ kind.isByte then
      .ok { result with sized := true, valueType := ValueKind.constPointer.nativeType }
    else .ok { result with valueType := Spelling.constPointerTo target.spelling }
  else .error target.unsupported

/-- An array is passed as a pointer: to constant values, or as an output of unknown size. -/
def decayedArray (t : CType) (isConst arrayDecayed : Bool) (valueType : String) :
    Classification :=
  { kind := if isConst then .value .constPointer else .output
    rendered := t.spelling
    isConst
    pointerLike := true
    arrayDecayed
    sized := !isConst
    valueType }

def arrayArgument (t : CType) : Except TypeFault Classification :=
  t.element.map fun element =>
    t.decayedArray element.isConstAnywhere true
      (if element.isConstAnywhere then element.spelling ++ " *"
        else ValueKind.constPointer.nativeType)

/-- An array behind a typedef is constant if the typedef or its element is; the element is looked at
only if the typedef is not. -/
def hiddenArrayIsConst (t : CType) : Except TypeFault Bool :=
  if t.isConst then .ok true else t.canonical.element.map (·.isConst)

def typedefArrayArgument (t : CType) : Except TypeFault Classification :=
  t.hiddenArrayIsConst.map fun isConst =>
    t.decayedArray isConst false ValueKind.constPointer.nativeType

def typedefArgument (t : CType) (underlying : Bool) : Except TypeFault Classification :=
  let canonical := t.canonical
  let target := canonical.pointee
  if let some (kind, _) := canonical.kind.scalar? then .ok (t.scalarArgument kind)
  else if canonical.kind = .enumeration then .ok t.enumArgument
  else if canonical.kind = .record then .ok (t.recordArgument underlying)
  else if canonical.kind = .pointer then
    if target.kind = .function then .error t.unsupported
    else .ok
      { t.scalarArgument (hiddenPointer target) with
        isConst := target.isConst
        pointerLike := true }
  else if canonical.kind.isReference then
    .ok
      { kind := .value (.pointerTo target.isConst)
        rendered := t.spelling
        byAddress := true
        isConst := target.isConst
        pointerLike := true
        reference := canonical.kind.reference
        valueType := target.spelling ++ " *" }
  else if canonical.kind.isArray then t.typedefArrayArgument
  else .error t.unsupported

/-- The classification of a parameter type that is not a moved-from scalar. -/
def directArgument (t : CType) (underlying : Bool) : Except TypeFault Classification :=
  let kind := t.desugar.kind
  if t.isTypedef then t.typedefArgument underlying
  else if let some (value, _) := kind.scalar? then .ok (t.scalarArgument value)
  else if kind = .enumeration then .ok t.enumArgument
  else if kind = .pointer then t.pointee.targetArgument t.spelling false underlying
  else if kind.isReference then
    (t.pointee.targetArgument t.spelling true underlying).map fun result =>
      { result with reference := kind.reference }
  else if kind.isArray then t.arrayArgument
  else if t.isRecord then .ok (t.recordArgument underlying)
  else .error t.unsupported

/-- The type is written as an rvalue reference to a scalar or an enumerator. -/
def isMovedScalar (t : CType) : Bool :=
  !t.isTypedef && t.desugar.kind == .rvalueReference && t.pointee.canonical.kind.isScalarOrEnum

/-- The classification of a parameter type. Moved-from scalars are matched by value. With
`underlying`, objects are registered under the name of the record behind a typedef. -/
def classifyArgument (underlying : Bool) : CType → Except TypeFault Classification
  | ⟨kind, spelling, isConst, canonical?, some pointee, named?, element?, isVariadic⟩ =>
    let t : CType :=
      ⟨kind, spelling, isConst, canonical?, some pointee, named?, element?, isVariadic⟩
    if t.isMovedScalar then
      (classifyArgument underlying pointee).map fun result =>
        { result with rendered := spelling, reference := .rvalue }
    else t.directArgument underlying
  | t => t.directArgument underlying

end CType

end HeaderMock

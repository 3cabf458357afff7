/-!
# C and C++ types

Types as a parser reports them: a kind, a spelling, and the types reached from it.

## Main definitions

* `TypeKind`: the kinds of types that matter here; any other has a name only.
* `CType`: a type with what it refers to.
* `CType.desugar`: a type without elaborated sugar.
* `CType.target?`: the type that a pointer, reference or array refers to.
-/

namespace HeaderMock

inductive TypeKind where
  | invalid
  | unexposed
  | void
  | bool
  | plainSignedChar
  | plainUnsignedChar
  | signedChar
  | unsignedChar
  | wideChar
  | char16
  | char32
  | short
  | unsignedShort
  | int
  | unsignedInt
  | long
  | unsignedLong
  | float
  | double
  | pointer
  | lvalueReference
  | rvalueReference
  | record
  | enumeration
  | typedef
  | function
  | functionNoPrototype
  | constantArray
  | incompleteArray
  | elaborated
  | other (name : String)
  deriving Repr, DecidableEq

/-- The reference that a type is, if any. -/
inductive Reference where
  | none
  | lvalue
  | rvalue
  deriving Repr, DecidableEq

/-- The reference sign. -/
def Reference.sign : Reference → String
  | .none => ""
  | .lvalue => "&"
  | .rvalue => "&&"

namespace TypeKind

def isArray : TypeKind → Bool
  | .constantArray | .incompleteArray => true
  | _ => false

/-- Plain characters, which make up texts. -/
def isCharacter : TypeKind → Bool
  | .plainSignedChar | .plainUnsignedChar => true
  | _ => false

/-- Characters of one byte, which make up buffers. -/
def isByte : TypeKind → Bool
  | .plainSignedChar | .plainUnsignedChar | .signedChar | .unsignedChar => true
  | _ => false

def reference : TypeKind → Reference
  | .lvalueReference => .lvalue
  | .rvalueReference => .rvalue
  | _ => .none

def isReference (k : TypeKind) : Bool :=
  k.reference != .none

theorem isArray_eq_false {k : TypeKind} (h : k = .pointer ∨ k.isReference = true) :
    k.isArray = false := by
  cases k <;> simp_all [isReference, reference, isArray]

end TypeKind

/-- A type and the types that a parser reaches from it. A missing canonical type is the type
itself. -/
structure CType where
  kind : TypeKind
  spelling : String := ""
  isConst : Bool := false
  canonical? : Option CType := none
  pointee? : Option CType := none
  named? : Option CType := none
  element? : Option CType := none
  isVariadic : Bool := false
  deriving Repr

/-- Why a type cannot be handed to the mock library. -/
inductive TypeFault where
  | unsupported (spelling : String)
  | noElement
  deriving Repr, DecidableEq

namespace CType

/-- What is reached where a type leads nowhere. -/
def invalid : CType := { kind := .invalid }

instance : Inhabited CType := ⟨invalid⟩

def canonical (t : CType) : CType := t.canonical?.getD t

def pointee (t : CType) : CType := t.pointee?.getD invalid

/-- The element type of an array type. -/
def element (t : CType) : Except TypeFault CType :=
  match t.element? with
  | some e => .ok e
  | none => .error .noElement

theorem element_eq_ok_iff {t e : CType} : t.element = .ok e ↔ t.element? = some e := by
  unfold element
  cases t.element? <;> simp

/-- The type without elaborated sugar such as `struct S` or `ns::T`; typedefs are kept. -/
def desugar : CType → CType
  | ⟨.elaborated, _, _, _, _, some named, _, _⟩ => named.desugar
  | ⟨.elaborated, _, _, _, _, none, _, _⟩ => invalid
  | t => t

theorem desugar_eq_self {t : CType} (h : t.kind ≠ .elaborated) : t.desugar = t := by
  fun_cases desugar t with
  | case1 => exact absurd rfl h
  | case2 => exact absurd rfl h
  | case3 => rfl

/-- The type that a pointer, reference or array directly refers to. -/
def directTarget? (t : CType) : Except TypeFault (Option CType) :=
  if t.kind = .pointer ∨ t.kind.isReference then .ok (some t.pointee)
  else if t.kind.isArray then t.element.map some
  else .ok none

/-- The type that a pointer, reference or array refers to. Typedefs are looked through only if they
hide the indirection. -/
def target? (t : CType) : Except TypeFault (Option CType) := do
  match ← t.desugar.directTarget? with
  | some target => return some target
  | none => t.canonical.directTarget?

def isRecord (t : CType) : Bool := t.canonical.kind == .record

def isTypedef (t : CType) : Bool := t.desugar.kind == .typedef

def isVoid (t : CType) : Bool := t.canonical.kind == .void

/-- The type is constant as written or behind its typedefs. -/
def isConstAnywhere (t : CType) : Bool := t.isConst || t.canonical.isConst

end CType

end HeaderMock

import HeaderMock.CType.Spelling
import HeaderMock.Decl.Basic
import HeaderMock.Override.Basic
import HeaderMock.Slot.Classification

/-!
# Signatures

All that the code for one mocked declaration depends on.
-/

namespace HeaderMock

/-- The exception specification to write. -/
inductive ExceptionSpec where
  | none
  | noexcept
  | throwsNothing
  | throwsAnything
  /-- The listed types have to be filled in by hand. -/
  | throwsListed
  deriving Repr, DecidableEq

def ExceptionSpec.text : ExceptionSpec → String
  | .none => ""
  | .noexcept => "noexcept"
  | .throwsNothing => "throw()"
  | .throwsAnything => "throw(...)"
  | .throwsListed => "throw(__put_exception_types_manually_here__)"

/-- A parameter of a mocked declaration. An override wins over a classification. -/
structure Parameter where
  name : String
  typeSpelling : String
  classification : Option Classification := none
  override : Option Override := none
  /-- The type that a pointer, reference or array refers to. -/
  targetSpelling : Option String := none
  deriving Repr, DecidableEq

namespace Parameter

def slotKind? (p : Parameter) : Option SlotKind :=
  match p.override with
  | some spec => some spec.kind.slot
  | none => p.classification.map (·.kind)

/-- The mock library never hears of the parameter. -/
def isSkipped (p : Parameter) : Bool := p.slotKind? == some .skip

/-- The parameter in the head of the mock; a skipped one has no name. -/
def declaration (p : Parameter) : String :=
  if p.isSkipped then p.typeSpelling else Spelling.declare p.typeSpelling p.name

end Parameter

structure Signature where
  routine : Routine
  qualifiedName : String
  helperName : String
  /-- The scopes around the declaration, outermost first. -/
  namespaces : List String
  parameters : List Parameter
  resultSpelling : String := ""
  result : Option Classification := none
  resultOverride : Option Override := none
  isConst : Bool := false
  isStatic : Bool := false
  exceptionSpec : ExceptionSpec := .none
  ownerName : Option String := none
  location : String := ""
  isVariadic : Bool := false
  deriving Repr, DecidableEq

namespace Signature

/-- Calls are made on an object. -/
def isMethod (sig : Signature) : Bool :=
  !sig.isStatic && (sig.routine == .method || sig.routine == .destructor)

/-- Calls give a value back. -/
def returns (sig : Signature) : Bool := sig.result.isSome || sig.resultOverride.isSome

/-- The name of the class in code. -/
def owner (sig : Signature) : String := sig.ownerName.getD "None"

end Signature

end HeaderMock

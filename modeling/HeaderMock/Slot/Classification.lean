import HeaderMock.CType.Basic
import HeaderMock.Slot.Kind

/-!
# Classifications

What the classification of one slot says about the code for it.
-/

namespace HeaderMock

/-- How one slot crosses the mock library. -/
structure Classification where
  kind : SlotKind
  /-- The declared type, as written. -/
  rendered : String
  /-- The value is cast to `castType` on its way. -/
  castRequired : Bool := false
  castType : Option String := none
  /-- An argument is passed by its address, a returned pointer is dereferenced. -/
  byAddress : Bool := false
  /-- The value, or what it refers to, is constant. -/
  isConst : Bool := false
  /-- The slot is a pointer, a reference or an array. -/
  pointerLike : Bool := false
  /-- The name under which objects of the slot's type are registered. -/
  tag : Option String := none
  arrayDecayed : Bool := false
  reference : Reference := .none
  /-- A returned value is finally cast to the declared type. -/
  typedefCast : Bool := false
  /-- The type that the expectation helper takes for the slot. -/
  valueType : String := ""
  /-- The size of the output is not known, so the helper takes it as well. -/
  sized : Bool := false
  deriving Repr, DecidableEq

end HeaderMock

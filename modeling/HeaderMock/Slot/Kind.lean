/-!
# Slot kinds

A slot is a parameter or a result of a mocked declaration. Its kind says how the value crosses the
mock library.

## Main definitions

* `ValueKind`: the values that the mock library stores natively.
* `SlotKind`: all the ways to hand a slot over.
* `ValueKind.apiName`, `ValueKind.nativeType`: the library's name and C++ type of a value.
-/

namespace HeaderMock

/-- The values that the mock library stores natively. -/
inductive ValueKind where
  | bool
  | int
  | unsignedInt
  | long
  | unsignedLong
  | double
  | string
  | pointer
  | constPointer
  deriving Repr, DecidableEq

namespace ValueKind

/-- The name by which options select the kind. -/
def name : ValueKind → String
  | .bool => "Bool"
  | .int => "Int"
  | .unsignedInt => "UnsignedInt"
  | .long => "Long"
  | .unsignedLong => "UnsignedLong"
  | .double => "Double"
  | .string => "String"
  | .pointer => "Pointer"
  | .constPointer => "ConstPointer"

/-- The kind inside `with…Parameter` and `return…Value`. -/
def apiName : ValueKind → String
  | .long => "LongInt"
  | .unsignedLong => "UnsignedLongInt"
  | k => k.name

/-- The C++ type in which the mock library holds the value. -/
def nativeType : ValueKind → String
  | .bool => "bool"
  | .int => "int"
  | .unsignedInt => "unsigned int"
  | .long => "long"
  | .unsignedLong => "unsigned long"
  | .double => "double"
  | .string => "const char *"
  | .pointer => "void *"
  | .constPointer => "const void *"

end ValueKind

/-- The ways to hand a slot over to the mock library. -/
inductive SlotKind where
  | value (kind : ValueKind)
  | output
  | inputOfType
  | outputOfType
  | inputPod
  | outputPod
  | memoryBuffer
  | skip
  deriving Repr, DecidableEq

namespace SlotKind

/-- The kind carries nothing besides its value. -/
def isValue : SlotKind → Bool
  | .value _ => true
  | _ => false

/-- The name by which options select the kind. -/
def name : SlotKind → String
  | .value kind => kind.name
  | .output => "Output"
  | .inputOfType => "InputOfType"
  | .outputOfType => "OutputOfType"
  | .inputPod => "InputPOD"
  | .outputPod => "OutputPOD"
  | .memoryBuffer => "MemoryBuffer"
  | .skip => "Skip"

end SlotKind

end HeaderMock

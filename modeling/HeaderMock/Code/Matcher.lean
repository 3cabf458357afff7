import HeaderMock.Code.Expr
import HeaderMock.Slot.Kind

/-!
# Matchers

The calls by which the mock library learns about one parameter: those of an actual call report it,
those of an expected call say what it has to be.

## Main definitions

* `ActualMatcher`, `ExpectedMatcher`: the calls of either side.
* `method`, `parameter`, `tag?`: the method called, the parameter's name, the type's name.
-/

namespace HeaderMock

/-- A text between double quotes. -/
def quoted (s : String) : String := "\"" ++ s ++ "\""

/-- `.method(a, b)` -/
def methodCall (method : String) (args : List String) : String :=
  "." ++ method ++ "(" ++ String.intercalate ", " args ++ ")"

inductive ActualMatcher where
  | value (kind : ValueKind) (name : String) (e : Expr)
  | output (name : String) (e : Expr)
  | inputOfType (tag name : String) (e : Expr)
  | outputOfType (tag name : String) (e : Expr)
  | memoryBuffer (name : String) (e size : Expr)
  deriving Repr, DecidableEq

namespace ActualMatcher

def method : ActualMatcher → String
  | .value kind _ _ => "with" ++ kind.apiName ++ "Parameter"
  | .output _ _ => "withOutputParameter"
  | .inputOfType _ _ _ => "withParameterOfType"
  | .outputOfType _ _ _ => "withOutputParameterOfType"
  | .memoryBuffer _ _ _ => "withMemoryBufferParameter"

def parameter : ActualMatcher → String
  | .value _ name _ | .output name _ | .inputOfType _ name _ | .outputOfType _ name _
  | .memoryBuffer name _ _ => name

def tag? : ActualMatcher → Option String
  | .inputOfType tag _ _ | .outputOfType tag _ _ => some tag
  | _ => none

/-- What is handed over after the names. -/
def exprs : ActualMatcher → List Expr
  | .value _ _ e | .output _ e | .inputOfType _ _ e | .outputOfType _ _ e => [e]
  | .memoryBuffer _ e size => [e, size]

def render (m : ActualMatcher) : String :=
  methodCall m.method ((m.tag?.toList ++ [m.parameter]).map quoted ++ m.exprs.map Expr.render)

end ActualMatcher

inductive ExpectedMatcher where
  | value (kind : ValueKind) (name : String) (e : Expr)
  | outputReturning (name : String) (e size : Expr)
  | inputOfType (tag name : String) (e : Expr)
  | outputOfTypeReturning (tag name : String) (e : Expr)
  | memoryBuffer (name : String) (e size : Expr)
  deriving Repr, DecidableEq

namespace ExpectedMatcher

def method : ExpectedMatcher → String
  | .value kind _ _ => "with" ++ kind.apiName ++ "Parameter"
  | .outputReturning _ _ _ => "withOutputParameterReturning"
  | .inputOfType _ _ _ => "withParameterOfType"
  | .outputOfTypeReturning _ _ _ => "withOutputParameterOfTypeReturning"
  | .memoryBuffer _ _ _ => "withMemoryBufferParameter"

def parameter : ExpectedMatcher → String
  | .value _ name _ | .outputReturning name _ _ | .inputOfType _ name _
  | .outputOfTypeReturning _ name _ | .memoryBuffer name _ _ => name

def tag? : ExpectedMatcher → Option String
  | .inputOfType tag _ _ | .outputOfTypeReturning tag _ _ => some tag
  | _ => none

/-- What is handed over after the names. -/
def exprs : ExpectedMatcher → List Expr
  | .value _ _ e | .inputOfType _ _ e | .outputOfTypeReturning _ _ e => [e]
  | .outputReturning _ e size | .memoryBuffer _ e size => [e, size]

def render (m : ExpectedMatcher) : String :=
  methodCall m.method ((m.tag?.toList ++ [m.parameter]).map quoted ++ m.exprs.map Expr.render)

end ExpectedMatcher

end HeaderMock

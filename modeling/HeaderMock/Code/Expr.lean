import HeaderMock.Override.Template

/-!
# C++ expressions

The expressions of generated code: a name and what is put around it, from the inside out.

## Main definitions

* `Wrap`: one thing put around an expression.
* `Expr`: an expression; `Expr.render` is its text.
-/

namespace HeaderMock

/-- The text of a name that is not there. -/
def nameOrNone (name : Option String) : String := name.getD "None"

inductive Wrap where
  | addressOf
  | deref
  | move
  | getValue
  | sizeOfTarget
  | staticCast (type : String)
  | constCast (type : String)
  | inside (template : Template)
  deriving Repr, DecidableEq

namespace Wrap

def apply : Wrap → String → String
  | .addressOf, e => "&" ++ e
  | .deref, e => "*" ++ e
  | .move, e => "std::move(" ++ e ++ ")"
  | .getValue, e => e ++ ".getValue()"
  | .sizeOfTarget, e => "sizeof(*" ++ e ++ ")"
  | .staticCast type, e => "static_cast<" ++ type ++ ">(" ++ e ++ ")"
  | .constCast type, e => "const_cast<" ++ type ++ ">(" ++ e ++ ")"
  | .inside template, e => template.fill e

/-- Everything put around `e`, the first one innermost. -/
def applyAll (wraps : List Wrap) (e : String) : String :=
  wraps.foldl (fun e w => w.apply e) e

end Wrap

structure Expr where
  base : String
  /-- From the inside out. -/
  wraps : List Wrap := []
  deriving Repr, DecidableEq

namespace Expr

def render (e : Expr) : String := Wrap.applyAll e.wraps e.base

/-- `e` with one more thing around it. -/
def wrap (e : Expr) (w : Wrap) : Expr := { e with wraps := e.wraps ++ [w] }

/-- `e` with one more thing around it, if `b` holds. -/
def wrapIf (e : Expr) (b : Bool) (w : Wrap) : Expr := if b then e.wrap w else e

/-- The bytes behind a pointer. -/
def asBytes (e : Expr) : Expr :=
  (e.wrap (.staticCast "const void *")).wrap (.staticCast "const unsigned char *")

@[simp, grind =] theorem render_wrap (e : Expr) (w : Wrap) :
    (e.wrap w).render = w.apply e.render := by
  simp [render, wrap, Wrap.applyAll]

end Expr

end HeaderMock

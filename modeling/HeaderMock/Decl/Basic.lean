import HeaderMock.CType.Basic

/-!
# Declarations

The declarations of a unit as a parser reports them: a forest whose inner nodes are namespaces,
classes and the like.

## Main definitions

* `Decl`: a declaration and the declarations inside it.
* `Scope`: what a declaration knows of one that encloses it.
* `Site`: a function, method, constructor or destructor together with its enclosing scopes.
* `SourceUnit.sites`: all of them in one file, in the order of the source.
-/

namespace HeaderMock

/-- The declarations that can be called. -/
inductive Routine where
  | function
  | method
  | constructor
  | destructor
  deriving Repr, DecidableEq

inductive DeclKind where
  | routine (routine : Routine)
  | unit
  | namespaceScope
  | classScope
  | structScope
  | linkage
  | unexposed
  | classTemplate
  | classPartialSpecialization
  | functionTemplate
  | other
  deriving Repr, DecidableEq

namespace DeclKind

/-- Scopes whose members may be mocked. Nothing inside a template may. -/
def isSearched : DeclKind → Bool
  | .namespaceScope | .classScope | .structScope | .linkage | .unexposed => true
  | _ => false

def isClass : DeclKind → Bool
  | .classScope | .structScope => true
  | _ => false

def isTemplate : DeclKind → Bool
  | .classTemplate | .classPartialSpecialization | .functionTemplate => true
  | _ => false

/-- Scopes that leave no trace in a qualified name. -/
def isTransparent : DeclKind → Bool
  | .linkage | .unexposed => true
  | _ => false

end DeclKind

/-- How a member is accessed. -/
inductive Access where
  | unset
  | unspecified
  | opened
  | shielded
  | hidden
  deriving Repr, DecidableEq

namespace Access

/-- A class with this access can be named from outside. -/
def isOpen : Access → Bool
  | .unset | .unspecified | .opened => true
  | .shielded | .hidden => false

end Access

/-- The exception specification as a parser computes it. -/
inductive ExceptionKind where
  | noexcept
  | computedNoexcept
  | throwsNothing
  | throwsAnything
  | throwsListed
  | other
  deriving Repr, DecidableEq

/-- What a declaration knows of one that encloses it. -/
structure Scope where
  kind : DeclKind
  spelling : String := ""
  access : Access := .unset
  templateArgs : Int := -1
  deriving Repr, DecidableEq

/-- The scope of the whole unit. -/
def Scope.wholeUnit : Scope := { kind := .unit }

structure Argument where
  spelling : String := ""
  type : CType := .invalid
  deriving Repr

/-- A declaration without the ones inside it. -/
structure DeclInfo extends Scope where
  displayName : String := spelling
  file : Option String := none
  line : Int := 0
  column : Int := 0
  /-- The enclosing scopes, nearest first, where they are not those around the declaration in its
  unit. -/
  enclosing? : Option (List Scope) := none
  isDefined : Bool := false
  /-- What redeclarations of one entity have in common. -/
  entity : String := ""
  tokens : List String := []
  exception : ExceptionKind := .other
  result : CType := .invalid
  args : List Argument := []
  type : CType := { kind := .function }
  isConst : Bool := false
  isStatic : Bool := false
  isVirtual : Bool := false
  isPure : Bool := false
  deriving Repr

namespace DeclInfo

/-- The name of the file; a declaration from nowhere has the name `None`. -/
def fileName (d : DeclInfo) : String := d.file.getD "None"

/-- `file:line:column` -/
def location (d : DeclInfo) : String :=
  d.fileName ++ ":" ++ toString d.line ++ ":" ++ toString d.column

/-- The scopes around a declaration that stands directly inside `outer`. -/
def enclosing (d : DeclInfo) (outer : List Scope) : List Scope := d.enclosing?.getD outer

/-- The declaration ends its parameters with `...`. -/
def isVariadic (d : DeclInfo) : Bool := d.type.kind == .function && d.type.isVariadic

end DeclInfo

structure Decl where
  info : DeclInfo
  children : List Decl := []
  deriving Repr

/-- A routine and the scopes around it, nearest first. -/
structure Site where
  routine : Routine
  info : DeclInfo
  enclosing : List Scope
  deriving Repr

/-- The declaration as a routine inside `outer`, if it is one. -/
def Decl.site? (d : Decl) (outer : List Scope) : Option Site :=
  match d.info.kind with
  | .routine routine => some { routine, info := d.info, enclosing := d.info.enclosing outer }
  | _ => none

mutual

/-- The routines of the file `path` in a declaration inside `outer`. -/
def Decl.sites (path : String) (outer : List Scope) : Decl → List Site
  | ⟨info, children⟩ =>
    if info.fileName ≠ path then []
    else
      match info.kind with
      | .routine routine => [{ routine, info, enclosing := info.enclosing outer }]
      | kind =>
        if kind.isSearched then
          Decl.sitesAll path (info.toScope :: info.enclosing outer) children
        else []

/-- The routines of the file `path` in declarations inside `outer`. -/
def Decl.sitesAll (path : String) (outer : List Scope) : List Decl → List Site
  | [] => []
  | d :: ds => d.sites path outer ++ Decl.sitesAll path outer ds

end

/-- What a parser reports about the file `path`. -/
structure SourceUnit where
  path : String
  decls : List Decl := []
  deriving Repr

namespace SourceUnit

/-- The outermost declarations of the unit's own file. -/
def ownDecls (unit : SourceUnit) : List Decl :=
  unit.decls.filter (·.info.fileName == unit.path)

/-- The routines of the unit's own file, in the order of the source. -/
def sites (unit : SourceUnit) : List Site :=
  Decl.sitesAll unit.path [.wholeUnit] unit.decls

end SourceUnit

end HeaderMock

import HeaderMock.Decl.Basic
import HeaderMock.Decl.Scope

/-!
# Mockable declarations

Which declarations get a mock: those without a definition, outside templates and closed classes,
whose kind allows it.
-/

namespace HeaderMock

/-- Members of the scope can be reached from outside it. -/
def Scope.isReachable (s : Scope) : Bool :=
  !s.kind.isTemplate && (!s.kind.isClass || (s.access.isOpen && decide (s.templateArgs ≤ 0)))

/-- The access that each kind of routine needs. -/
def Routine.isOverridable (r : Routine) (d : DeclInfo) : Bool :=
  match r with
  | .function => true
  | .method => !d.isPure && (d.access == .opened || d.isVirtual)
  | .constructor => d.access != .hidden
  | .destructor => true

/-- Every scope around the routine, up to the unit, lets its members be reached. -/
def Site.isAccessible (s : Site) : Bool := (Scope.inUnit s.enclosing).all (·.isReachable)

/-- A mock can be generated for the routine. -/
def Site.isMockable (s : Site) : Bool :=
  !s.info.isDefined && decide (s.info.templateArgs ≤ 0) && s.isAccessible &&
    s.routine.isOverridable s.info

/-- A mock can be generated for the declaration inside `outer`. -/
def Decl.isMockable (d : Decl) (outer : List Scope) : Bool :=
  (d.site? outer).any (·.isMockable)

end HeaderMock

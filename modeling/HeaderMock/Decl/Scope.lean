import HeaderMock.Decl.Basic

/-!
# Names of declarations

## Main definitions

* `Site.scopeNames`: the named scopes around a declaration, outermost first.
* `Site.qualifiedName`, `Site.ownerName?`: full names of a declaration and of its class.
* `Site.helperName`: the name of its expectation helpers.
* `inExpectNamespaces`: code inside the namespaces of a helper.
-/

namespace HeaderMock

/-- Enclosing scopes, nearest first, up to the unit. -/
def Scope.inUnit (enclosing : List Scope) : List Scope :=
  enclosing.takeWhile (·.kind != .unit)

/-- The names of enclosing scopes, outermost first. Scopes without a name and language linkage are
left out. -/
def Scope.names (enclosing : List Scope) : List String :=
  ((Scope.inUnit enclosing).filter fun s => !s.kind.isTransparent && s.spelling != "").map
    (·.spelling) |>.reverse

/-- Names joined by `::`. -/
def joinScopes (names : List String) : String := String.intercalate "::" names

namespace Site

def scopeNames (s : Site) : List String := Scope.names s.enclosing

/-- The full name, as in `ns::Class::~Class`. -/
def qualifiedName (s : Site) : String := joinScopes (s.scopeNames ++ [s.info.spelling])

/-- The full name of the nearest scope. -/
def ownerName? (s : Site) : Option String :=
  match s.enclosing with
  | [] => none
  | owner :: outer => some (joinScopes (Scope.names outer ++ [owner.spelling]))

/-- The name of the helpers: that of the declaration, but a class name with a sign for its
constructors and destructor. -/
def helperName (s : Site) : String :=
  match s.routine with
  | .destructor => String.ofList s.info.spelling.toList.tail ++ "$dtor"
  | .constructor => s.info.spelling ++ "$ctor"
  | _ => s.info.spelling

end Site

/-- The namespaces of helpers for a declaration inside the scopes `names`. -/
def expectNamespaces (names : List String) : List String :=
  "expect" :: names.map (· ++ "$")

/-- Code inside the namespaces of a helper. -/
def inExpectNamespaces (content : String) (names : List String) : String :=
  let namespaces := expectNamespaces names
  String.intercalate " " (namespaces.map fun name => "namespace " ++ name ++ " \x7b") ++ "\n" ++
    content ++ String.intercalate " " (namespaces.map fun _ => "\x7d") ++ "\n"

end HeaderMock

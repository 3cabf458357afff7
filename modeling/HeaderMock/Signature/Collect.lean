import HeaderMock.Decl.Scope
import HeaderMock.Report
import HeaderMock.Slot.Classify

/-!
# Collecting signatures

The signature of a declaration under a configuration: overrides where a key applies, and
classifications everywhere else.

## Main definitions

* `Site.signature`: the signature, with events for what the code cannot check.
-/

namespace HeaderMock

/-- The name of a parameter; those without one are numbered. -/
def Argument.name (arg : Argument) (index : Nat) : String :=
  if arg.spelling = "" then "_unnamedArg" ++ toString index else arg.spelling

/-- The parameter at `index` of `function`. -/
def Argument.parameter (arg : Argument) (cfg : Config) (function : String) (index : Nat) :
    Except TypeFault Parameter := do
  let name := arg.name index
  let override := cfg.resolveParameter function name arg.type.spelling
  let classification ←
    if override.isSome then .ok none
    else (arg.type.classifyArgument cfg.underlying).map some
  let target ← arg.type.target?
  return { name, typeSpelling := arg.type.spelling, classification, override
           targetSpelling := target.map (·.spelling) }

namespace ExceptionKind

/-- The specification that is written for a kind. -/
def spec : ExceptionKind → ExceptionSpec
  | .noexcept | .computedNoexcept => .noexcept
  | .throwsNothing => .throwsNothing
  | .throwsAnything => .throwsAnything
  | .throwsListed => .throwsListed
  | .other => .none

end ExceptionKind

/-- The three tokens after the first `noexcept`. -/
def tokensAfterNoexcept (tokens : List String) : List String :=
  ((tokens.dropWhile (· != "noexcept")).drop 1).take 3

namespace Site

/-- The exception specification as written; one that is only implied does not count. -/
def exceptionSpec (s : Site) : Report ExceptionSpec :=
  let tokens := s.info.tokens
  if !tokens.contains "noexcept" && !tokens.contains "throw" then pure .none
  else if s.info.exception = .computedNoexcept then
    if !tokens.contains "noexcept" then Report.fail .noNoexcept
    else if tokensAfterNoexcept tokens = ["(", "false", ")"] then pure .none
    else pure .noexcept
  else if s.info.exception = .throwsListed then do
    Report.emit (.listedExceptions s.info.location s.qualifiedName)
    pure .throwsListed
  else pure s.info.exception.spec

/-- The declaration gives a value back, as far as its kind is concerned. -/
def hasResult (s : Site) : Bool := s.routine == .function || s.routine == .method

/-- The override of the result; `void` has none. -/
def resultOverride? (s : Site) (cfg : Config) : Option Override :=
  if s.hasResult && !s.info.result.isVoid then
    cfg.resolveResult s.qualifiedName s.info.result.spelling
  else none

/-- The classification of a result that is not overridden. -/
def resultClassification? (s : Site) (cfg : Config) : Except TypeFault (Option Classification) :=
  if s.hasResult && (s.resultOverride? cfg).isNone then s.info.result.classifyResult else .ok none

def parameters (s : Site) (cfg : Config) : Except TypeFault (List Parameter) :=
  s.info.args.zipIdx.mapM fun (arg, i) => arg.parameter cfg s.qualifiedName i

/-- A result about the types of a declaration; its fault says where the declaration stands. -/
def located {α : Type} (s : Site) (x : Except TypeFault α) : Report α :=
  Report.ofExcept (x.mapError (Fault.ofType (some s.info.location)))

/-- Reports that variadic arguments are not checked, if there are any. -/
def checkVariadic (s : Site) : Report Unit :=
  if s.info.isVariadic then Report.emit (.variadicUnchecked s.info.location s.qualifiedName)
  else pure ()

/-- The name of the class of a member; functions have none. -/
def owner? (s : Site) : Report (Option String) :=
  if s.routine = .function then pure none
  else
    match s.ownerName? with
    | some owner => pure (some owner)
    | none => Report.fail .noOwner

/-- The signature of a declaration. Of several unsupported slots the result is reported first, then
the parameters from left to right. -/
def signature (s : Site) (cfg : Config) : Report Signature := do
  let result ← s.located (s.resultClassification? cfg)
  let parameters ← s.located (s.parameters cfg)
  s.checkVariadic
  let ownerName ← s.owner?
  let exceptionSpec ← s.exceptionSpec
  return { routine := s.routine
           qualifiedName := s.qualifiedName
           helperName := s.helperName
           namespaces := s.scopeNames
           parameters
           resultSpelling := if s.hasResult then s.info.result.spelling else ""
           result
           resultOverride := s.resultOverride? cfg
           isConst := s.routine == .method && s.info.isConst
           isStatic := s.routine == .method && s.info.isStatic
           exceptionSpec
           ownerName
           location := s.info.location
           isVariadic := s.info.isVariadic }

end Site

end HeaderMock

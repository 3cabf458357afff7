import HeaderMock.Override.Basic

/-!
# Configurations

Overrides by key, and the choice of type names.

## Main definitions

* `Config`: the options that all declarations of a unit share.
* `Config.build`: the configuration of option texts.
* `Config.resolveResult`, `Config.resolveParameter`: the override of a slot.
-/

namespace HeaderMock

/-- Overrides by key, in the order of the options. -/
abbrev OverrideTable := List (String × Override)

inductive ConfigError where
  | malformed (error : OverrideError)
  | repeatedKey (key : String)
  | notATypeKey (key : String)
  deriving Repr, DecidableEq

def ConfigError.message : ConfigError → String
  | .malformed error => error.message
  | .repeatedKey key => "Override option key <" ++ key ++ "> can only be passed once."
  | .notATypeKey key => "Type override option key <" ++ key ++ "> must start with '@' or '#'."

/-- The table with one more option, whose key has to be new. -/
def OverrideTable.add (table : OverrideTable) (option : String) :
    Except ConfigError OverrideTable := do
  let (key, spec) ← (Override.parse option).mapError .malformed
  if (table.lookup key).isSome then .error (.repeatedKey key) else .ok (table ++ [(key, spec)])

def OverrideTable.build (options : List String) : Except ConfigError OverrideTable :=
  options.foldlM OverrideTable.add []

/-- The key starts with a sign of results or parameters, so that a type follows. -/
def Override.isTypeKey (key : String) : Bool :=
  Text.startsWith key "@" || Text.startsWith key "#"

structure Config where
  /-- Objects are registered under the name of the record behind a typedef. -/
  underlying : Bool := false
  /-- Overrides by function and parameter. -/
  parameters : OverrideTable := []
  /-- Overrides by type. -/
  types : OverrideTable := []
  deriving Repr

namespace Config

def build (underlying : Bool) (parameterOptions typeOptions : List String) :
    Except ConfigError Config := do
  let parameters ← OverrideTable.build parameterOptions
  let types ← OverrideTable.build typeOptions
  match types.find? (!Override.isTypeKey ·.1) with
  | some (key, _) => .error (.notATypeKey key)
  | none => .ok { underlying, parameters, types }

def parameterOverride (cfg : Config) (key : String) : Option Override := cfg.parameters.lookup key

def typeOverride (cfg : Config) (key : String) : Option Override := cfg.types.lookup key

/-- The override of the result of `function`; its own key wins over the key of the type. -/
def resolveResult (cfg : Config) (function spelling : String) : Option Override :=
  (cfg.parameterOverride (function ++ "@")).or (cfg.typeOverride ("@" ++ spelling))

/-- The override of `parameter` of `function`; its own key wins over the key of the type. -/
def resolveParameter (cfg : Config) (function parameter spelling : String) : Option Override :=
  (cfg.parameterOverride (function ++ "#" ++ parameter)).or (cfg.typeOverride ("#" ++ spelling))

end Config

end HeaderMock

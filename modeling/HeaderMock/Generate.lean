import HeaderMock.Decl.Mockable
import HeaderMock.Expectation
import HeaderMock.Signature.Collect

/-!
# Generating code

The code for all mockable declarations of a unit.

## Main definitions

* `Entry`: the code for one declaration.
* `GeneratedUnit`: the code for a unit, in the order of the source.
* `SourceUnit.generate`: the code for a unit under a configuration.
-/

namespace HeaderMock

/-- The code for one declaration. -/
structure Entry where
  mock : String
  prototypes : String
  implementations : String
  deriving Repr, DecidableEq

/-- The code for a unit. -/
structure GeneratedUnit where
  mocks : List String := []
  prototypes : List String := []
  implementations : List String := []
  deriving Repr, DecidableEq

def GeneratedUnit.ofEntries (entries : List Entry) : GeneratedUnit :=
  { mocks := entries.map (·.mock)
    prototypes := entries.map (·.prototypes)
    implementations := entries.map (·.implementations) }

namespace Signature

def mockText (sig : Signature) : Except SlotFault String := sig.mock.map Mock.render

def prototypesText (sig : Signature) : Except SlotFault String :=
  sig.helperHeads.map HelperHeads.prototypes

def implementationsText (sig : Signature) : Except SlotFault String :=
  sig.helpers.map Helpers.implementations

def entry (sig : Signature) : Except SlotFault Entry := do
  let mock ← sig.mockText
  let prototypes ← sig.prototypesText
  let implementations ← sig.implementationsText
  return { mock, prototypes, implementations }

end Signature

/-- The code for a mockable declaration; one with an unsupported type is reported and has none. -/
def Site.entry? (s : Site) (cfg : Config) : Report (Option Entry) :=
  let collected := s.signature cfg
  match collected.result with
  | .error (.unsupportedType spelling location) =>
    { events := collected.events ++
        [.notMocked (Fault.unsupportedType spelling location).message s.info.displayName]
      result := .ok none }
  | _ => do
    let sig ← collected
    let entry ← Report.ofExcept (sig.entry.mapError Fault.slot)
    return some entry

/-- The code for declarations, where those in `seen` have been dealt with. Declarations that are not
mockable are reported, redeclarations are passed over. -/
def entriesFrom (cfg : Config) : List String → List Site → Report (List Entry)
  | _, [] => pure []
  | seen, s :: rest =>
    if !s.isMockable then do
      Report.emit (.skipped s.info.displayName)
      entriesFrom cfg seen rest
    else if seen.contains s.info.entity then entriesFrom cfg seen rest
    else do
      let entry? ← s.entry? cfg
      let entries ← entriesFrom cfg (s.info.entity :: seen) rest
      return entry?.toList ++ entries

/-- The code for every mockable declaration of a unit. -/
def SourceUnit.generate (unit : SourceUnit) (cfg : Config) : Report GeneratedUnit := do
  let entries ← entriesFrom cfg [] unit.sites
  return .ofEntries entries

end HeaderMock

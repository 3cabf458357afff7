import HeaderMock.Override.Config
import HeaderMock.Proofs.Sequencing

/-!
# What a configuration holds

Every override of a configuration that is built from options was read from one of them, so that it
suits its key: only values stand for results, and objects are never registered under an empty name.

## Main definitions

* `Override.SuitsKey`: the override may stand under the key.
* `Config.Sound`: every override of the configuration suits its key.

## Main statements

* `Override.parse_eq_ok_iff`: what an accepted option consists of.
* `Config.sound_of_build`: configurations built from options are sound.
* `Config.Sound.resolveResult_isValue`: only values are found for results.
-/

namespace HeaderMock

namespace Override

/-- The override may stand under the key. -/
structure SuitsKey (key : String) (o : Override) : Prop where
  result : isResultKey key = true → o.kind.slot.isValue
  typeName : ∀ name, o.kind.typeName? = some name → name ≠ ""

theorem typeName?_of_mem_simpleKinds {e : String × OverrideKind} (h : e ∈ simpleKinds) :
    e.2.typeName? = none := by
  revert e
  decide

theorem typeName?_argumentKind? {type arg : String} {kind : OverrideKind}
    (h : argumentKind? type arg = some kind) {name : String} (hn : kind.typeName? = some name) :
    name = arg := by
  unfold argumentKind? at h
  split at h
  · cases h
    simpa [OverrideKind.typeName?, eq_comm] using hn
  split at h
  · cases h
    simpa [OverrideKind.typeName?, eq_comm] using hn
  split at h
  · cases h
    simp [OverrideKind.typeName?] at hn
  · simp at h

/-- A type that is read with a name has a name that is not empty. -/
theorem typeName?_readKind {spec type : String} {kind : OverrideKind}
    (h : readKind spec = .ok (type, kind)) {name : String} (hn : kind.typeName? = some name) :
    name ≠ "" := by
  unfold readKind at h
  generalize Text.cutAt ':' spec = parts at h
  obtain ⟨front, arg⟩ := parts
  dsimp only at h
  split at h
  · simp at h
  split at h
  · next found =>
    cases h
    obtain ⟨l₁, l₂, hl, -⟩ := List.lookup_eq_some_iff.mp found
    have hm := typeName?_of_mem_simpleKinds (e := (type, kind)) (by simp [hl])
    simp [hm] at hn
  · next found _ =>
    split at h
    · simp at h
    · next hne =>
      cases h
      rwa [typeName?_argumentKind? found hn]
  · simp at h

/-- What an accepted option consists of. -/
theorem parse_eq_ok_iff {option key : String} {o : Override} :
    parse option = .ok (key, o) ↔
      ∃ spec rest front type, splitKey option = .ok (key, spec) ∧
        splitExpr spec = .ok (rest, o.expr) ∧ splitExpectType rest = .ok (front, o.expectType) ∧
        readKind front = .ok (type, o.kind) ∧ (isResultKey key = true → o.kind.slot.isValue) := by
  unfold parse parseParts
  rw [mapError_eq_ok_iff]
  constructor
  · intro h
    simp only [bind_eq_ok_iff, Prod.exists] at h
    obtain ⟨k, spec, hkey, rest, expr, hexpr, front, expectType, hexpect, type, kind, hkind, h⟩ := h
    split at h
    · simp at h
    · next hvalue =>
      cases h
      exact ⟨spec, rest, front, type, hkey, hexpr, hexpect, hkind, by simpa using hvalue⟩
  · rintro ⟨spec, rest, front, type, hkey, hexpr, hexpect, hkind, hvalue⟩
    simp only [bind_eq_ok_iff, Prod.exists]
    refine ⟨key, spec, hkey, rest, o.expr, hexpr, front, o.expectType, hexpect, type, o.kind,
      hkind, ?_⟩
    rw [if_neg (by simpa using hvalue)]

/-- An accepted option gives an override that suits its key. -/
theorem suitsKey_of_parse {option key : String} {o : Override} (h : parse option = .ok (key, o)) :
    o.SuitsKey key := by
  obtain ⟨spec, rest, front, type, -, -, -, hkind, hvalue⟩ := parse_eq_ok_iff.mp h
  exact ⟨hvalue, fun name hn => typeName?_readKind hkind hn⟩

@[simp, grind =] theorem isResultKey_append (function : String) :
    isResultKey (function ++ "@") = true := by
  simp [isResultKey, Text.endsWithChar]

@[simp, grind =] theorem isResultKey_cons (spelling : String) :
    isResultKey ("@" ++ spelling) = true := by
  simp [isResultKey, Text.startsWith, Text.dropStart?]

end Override

namespace OverrideTable

/-- Every override of the table suits its key. -/
def Sound (table : OverrideTable) : Prop := ∀ e ∈ table, e.2.SuitsKey e.1

theorem Sound.of_lookup {table : OverrideTable} (h : table.Sound) {key : String} {o : Override}
    (hl : table.lookup key = some o) : o.SuitsKey key := by
  obtain ⟨l₁, l₂, rfl, -⟩ := List.lookup_eq_some_iff.mp hl
  exact h (key, o) (by simp)

/-- One more option keeps a table sound. -/
theorem Sound.add {table table' : OverrideTable} {option : String} (h : table.Sound)
    (ha : table.add option = .ok table') : table'.Sound := by
  simp only [OverrideTable.add, bind_eq_ok_iff, mapError_eq_ok_iff, Prod.exists] at ha
  obtain ⟨key, o, hparse, ha⟩ := ha
  split at ha
  · simp at ha
  · cases ha
    intro e he
    rcases List.mem_append.mp he with he | he
    · exact h e he
    · obtain rfl := List.mem_singleton.mp he
      exact Override.suitsKey_of_parse hparse

theorem Sound.foldlM {options : List String} {table table' : OverrideTable} (h : table.Sound)
    (hf : options.foldlM OverrideTable.add table = .ok table') : table'.Sound := by
  induction options generalizing table with
  | nil =>
    simp only [List.foldlM_nil, pure_eq_ok_iff] at hf
    exact hf ▸ h
  | cons option options ih =>
    simp only [List.foldlM_cons, bind_eq_ok_iff] at hf
    obtain ⟨next, hadd, hrest⟩ := hf
    exact ih (h.add hadd) hrest

theorem sound_of_build {options : List String} {table : OverrideTable}
    (h : OverrideTable.build options = .ok table) : table.Sound := by
  have start : OverrideTable.Sound [] := by simp [Sound]
  exact start.foldlM h

end OverrideTable

namespace Config

/-- Every override of the configuration suits its key. -/
structure Sound (cfg : Config) : Prop where
  parameters : cfg.parameters.Sound
  types : cfg.types.Sound

theorem sound_of_build {underlying : Bool} {parameterOptions typeOptions : List String}
    {cfg : Config} (h : Config.build underlying parameterOptions typeOptions = .ok cfg) :
    cfg.Sound := by
  simp only [Config.build, bind_eq_ok_iff] at h
  obtain ⟨parameters, hp, types, ht, h⟩ := h
  split at h
  · simp at h
  · cases h
    exact ⟨OverrideTable.sound_of_build hp, OverrideTable.sound_of_build ht⟩

variable {cfg : Config} {o : Override}

/-- Only values are found for results. -/
theorem Sound.resolveResult_isValue (h : cfg.Sound) {function spelling : String}
    (hr : cfg.resolveResult function spelling = some o) : o.kind.slot.isValue := by
  rcases Option.or_eq_some_iff.mp hr with hr | ⟨-, hr⟩
  · exact (h.parameters.of_lookup hr).result (Override.isResultKey_append function)
  · exact (h.types.of_lookup hr).result (Override.isResultKey_cons spelling)

theorem Sound.resolveParameter_typeName (h : cfg.Sound) {function parameter spelling : String}
    (hr : cfg.resolveParameter function parameter spelling = some o) {name : String}
    (hn : o.kind.typeName? = some name) : name ≠ "" := by
  rcases Option.or_eq_some_iff.mp hr with hr | ⟨-, hr⟩
  · exact (h.parameters.of_lookup hr).typeName name hn
  · exact (h.types.of_lookup hr).typeName name hn

end Config

end HeaderMock

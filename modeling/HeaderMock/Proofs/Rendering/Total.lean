import HeaderMock.Proofs.Generate.Entries

/-!
# Code can always be written

The code for a collected signature is written without a fault. Whatever the classification or an
override makes the mock and the helpers look up is there, so that the only faults of a whole unit
are gaps in what the parser reports.

## Main statements

* `rendering_total`: the range of classifications and overrides, and that all code is written.
-/

namespace HeaderMock

/-- Every entry of a sound table that registers objects has a name for them. -/
theorem OverrideTable.Sound.exists_typeName {table : OverrideTable} (h : table.Sound)
    {e : String × Override} (he : e ∈ table)
    (hk : e.2.kind.slot = .inputOfType ∨ e.2.kind.slot = .outputOfType) :
    ∃ name, e.2.kind.typeName? = some name ∧ name ≠ "" := by
  have hn := (h e he).typeName
  cases hkind : e.2.kind with
  | inputOfType name => exact ⟨name, rfl, hn name (by simp [hkind, OverrideKind.typeName?])⟩
  | outputOfType name => exact ⟨name, rfl, hn name (by simp [hkind, OverrideKind.typeName?])⟩
  | _ => simp [hkind, OverrideKind.slot] at hk

/-- Classifications of parameters and of results, and overrides, are such that all code for a
collected signature can be written: mock, prototypes and implementations. A unit as a whole then
has no faults but gaps in what the parser reports. -/
theorem rendering_total {underlying : Bool} {parameterOptions typeOptions : List String}
    {cfg : Config} (hcfg : Config.build underlying parameterOptions typeOptions = .ok cfg) :
    (∀ (t : CType) (u : Bool) (c : Classification), t.classifyArgument u = .ok c →
      c.SuitsArgument) ∧
    (∀ (t : CType) (c : Classification), t.classifyResult = .ok (some c) → c.SuitsResult) ∧
    (∀ (function spelling : String) (o : Override), cfg.resolveResult function spelling = some o →
      o.kind.slot.isValue) ∧
    (∀ e ∈ cfg.parameters ++ cfg.types,
      e.2.kind.slot = .inputOfType ∨ e.2.kind.slot = .outputOfType →
        ∃ name, e.2.kind.typeName? = some name ∧ name ≠ "") ∧
    (∀ (s : Site) (sig : Signature), (s.signature cfg).result = .ok sig →
      sig.Sound ∧ ∃ mock prototypes implementations, sig.mockText = .ok mock ∧
        sig.prototypesText = .ok prototypes ∧ sig.implementationsText = .ok implementations) ∧
    (∀ (unit : SourceUnit) (fault : Fault), (unit.generate cfg).result = .error fault →
      fault = .noElementType ∨ fault = .noNoexcept ∨ fault = .noOwner) := by
  have sound := Config.sound_of_build hcfg
  refine ⟨fun t u c h => CType.suits_classifyArgument h, fun t c h => CType.suits_classifyResult h,
    fun function spelling o h => sound.resolveResult_isValue h, ?_, ?_,
    fun unit fault h => SourceUnit.generate_eq_error sound h⟩
  · intro e he hk
    rcases List.mem_append.mp he with he | he
    · exact sound.parameters.exists_typeName he hk
    · exact sound.types.exists_typeName he hk
  · intro s sig h
    have hs := Site.sound_of_signature sound h
    obtain ⟨e, he⟩ := hs.exists_entry
    exact ⟨hs, e.mock, e.prototypes, e.implementations, Signature.entry_eq_ok_iff.mp he⟩

/-- The specimen is collected under its options, and all its code is written. -/
theorem rendering_total_specimen :
    ∃ cfg sig mock prototypes implementations,
      Config.build false Config.specimenOptions [] = .ok cfg ∧
        (Site.specimen.signature cfg).result = .ok sig ∧ sig.mockText = .ok mock ∧
        sig.prototypesText = .ok prototypes ∧ sig.implementationsText = .ok implementations := by
  obtain ⟨cfg, hcfg⟩ : ∃ cfg, Config.build false Config.specimenOptions [] = .ok cfg := ⟨_, rfl⟩
  obtain ⟨sig, hsig⟩ : ∃ sig, (Site.specimen.signature cfg).result = .ok sig := by
    cases hcfg
    exact ⟨_, rfl⟩
  obtain ⟨-, -, -, -, hrender, -⟩ := rendering_total hcfg
  obtain ⟨-, mock, prototypes, implementations, h⟩ := hrender _ _ hsig
  exact ⟨cfg, sig, mock, prototypes, implementations, hcfg, hsig, h⟩

end HeaderMock

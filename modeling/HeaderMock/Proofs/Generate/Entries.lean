import HeaderMock.Generate
import HeaderMock.Proofs.Rendering.Parts

/-!
# Code for one declaration

The three ways in which the code for a mockable declaration comes out: it is there, the declaration
has an unsupported type, or collecting ends in a fault. Under a sound configuration nothing that is
collected fails to be written.

## Main statements

* `Signature.Sound.exists_entry`: all code for a sound signature can be written.
* `Site.entry?_of_ok`, `Site.entry?_of_unsupported`: the code for a declaration.
* `Site.entry?_eq_ok`: where code, or the lack of it, comes from.
* `SourceUnit.generate_eq_error`: the faults of a whole unit.
-/

namespace HeaderMock

theorem Signature.entry_eq_ok_iff {sig : Signature} {e : Entry} :
    sig.entry = .ok e ↔ sig.mockText = .ok e.mock ∧ sig.prototypesText = .ok e.prototypes ∧
      sig.implementationsText = .ok e.implementations := by
  simp only [entry, bind_eq_ok_iff, pure_eq_ok_iff]
  constructor
  · rintro ⟨mock, hm, prototypes, hp, implementations, hi, rfl⟩
    exact ⟨hm, hp, hi⟩
  · rintro ⟨hm, hp, hi⟩
    exact ⟨_, hm, _, hp, _, hi, rfl⟩

/-- All code for a sound signature can be written. -/
theorem Signature.Sound.exists_entry {sig : Signature} (h : sig.Sound) :
    ∃ e, sig.entry = .ok e := by
  obtain ⟨m, hm, -⟩ := h.exists_mock
  obtain ⟨helpers, hh, -⟩ := h.exists_helpers
  have heads := (helpers_eq_ok_iff.mp hh).1
  refine ⟨⟨m.render, helpers.prototypes, helpers.implementations⟩, entry_eq_ok_iff.mpr ?_⟩
  simp [mockText, prototypesText, implementationsText, hm, heads, hh]

namespace Site

variable {s : Site} {cfg : Config}

theorem entry?_of_ok {sig : Signature} (h : (s.signature cfg).result = .ok sig) :
    s.entry? cfg =
      { events := (s.signature cfg).events
        result := (sig.entry.mapError Fault.slot).map some } := by
  unfold entry?
  simp only [h]
  show Report.bind _ _ = _
  simp only [Report.bind, h]
  cases sig.entry <;> simp [bind, Report.bind, Report.ofExcept, pure, Except.mapError, Except.map]

theorem entry?_of_unsupported {spelling : String} {location : Option String}
    (h : (s.signature cfg).result = .error (.unsupportedType spelling location)) :
    s.entry? cfg =
      { events := (s.signature cfg).events ++
          [.notMocked (Fault.unsupportedType spelling location).message s.info.displayName]
        result := .ok none } := by
  simp only [h, entry?]

theorem entry?_of_error {fault : Fault} (h : (s.signature cfg).result = .error fault)
    (hf : ∀ spelling location, fault ≠ .unsupportedType spelling location) :
    s.entry? cfg = { events := (s.signature cfg).events, result := .error fault } := by
  unfold entry?
  simp only [h]
  split
  · next heq => exact absurd (Except.error.inj heq) (hf _ _)
  · show Report.bind _ _ = _
    simp only [Report.bind, h]

/-- Whatever comes out without a fault is code for what is collected, or nothing for a declaration
with an unsupported type. -/
theorem entry?_eq_ok {code? : Option Entry} (h : (s.entry? cfg).result = .ok code?) :
    (∃ sig e, (s.signature cfg).result = .ok sig ∧ sig.entry = .ok e ∧ code? = some e) ∨
      ∃ spelling location,
        (s.signature cfg).result = .error (.unsupportedType spelling location) ∧ code? = none := by
  cases hs : (s.signature cfg).result with
  | ok sig =>
    rw [entry?_of_ok hs] at h
    obtain ⟨e, he, rfl⟩ := map_eq_ok_iff.mp h
    exact .inl ⟨sig, e, rfl, mapError_eq_ok_iff.mp he, rfl⟩
  | error fault =>
    by_cases hf : ∃ spelling location, fault = .unsupportedType spelling location
    · obtain ⟨spelling, location, rfl⟩ := hf
      rw [entry?_of_unsupported hs] at h
      exact .inr ⟨spelling, location, rfl, (Except.ok.inj h).symm⟩
    · rw [entry?_of_error hs fun spelling location hl => hf ⟨spelling, location, hl⟩] at h
      cases h

/-- Under a sound configuration only gaps in what the parser reports are faults. -/
theorem entry?_eq_error (hcfg : cfg.Sound) {fault : Fault}
    (h : (s.entry? cfg).result = .error fault) :
    fault = .noElementType ∨ fault = .noNoexcept ∨ fault = .noOwner := by
  cases hs : (s.signature cfg).result with
  | ok sig =>
    obtain ⟨e, he⟩ := (sound_of_signature hcfg hs).exists_entry
    simp [entry?_of_ok hs, he] at h
  | error f =>
    rcases signature_eq_error hs with ⟨spelling, rfl⟩ | hf
    · simp [entry?_of_unsupported hs] at h
    · have hne : ∀ spelling location, f ≠ .unsupportedType spelling location := by
        rcases hf with rfl | rfl | rfl <;> simp
      rw [entry?_of_error hs hne] at h
      exact Except.error.inj h ▸ hf

end Site

/-- A fault of the whole is the fault of one of its declarations. -/
theorem entriesFrom_eq_error {cfg : Config} {seen : List String} {sites : List Site} {fault : Fault}
    (h : (entriesFrom cfg seen sites).result = .error fault) :
    ∃ s ∈ sites, (s.entry? cfg).result = .error fault := by
  fun_induction entriesFrom cfg seen sites with
  | case1 => simp at h
  | case2 seen s rest _ ih =>
    rw [Report.result_bind_ok (Report.result_emit _)] at h
    obtain ⟨x, hx, he⟩ := ih h
    exact ⟨x, by simp [hx], he⟩
  | case3 seen s rest _ _ ih =>
    obtain ⟨x, hx, he⟩ := ih h
    exact ⟨x, by simp [hx], he⟩
  | case4 seen s rest _ _ ih =>
    simp only [Report.result_bind_eq_error_iff] at h
    rcases h with h | ⟨_, -, h | ⟨_, -, h⟩⟩
    · exact ⟨s, by simp, h⟩
    · obtain ⟨x, hx, he⟩ := ih h
      exact ⟨x, by simp [hx], he⟩
    · simp at h

theorem SourceUnit.generate_eq_error {unit : SourceUnit} {cfg : Config} (hcfg : cfg.Sound)
    {fault : Fault} (h : (unit.generate cfg).result = .error fault) :
    fault = .noElementType ∨ fault = .noNoexcept ∨ fault = .noOwner := by
  simp only [generate, Report.result_bind_eq_error_iff] at h
  rcases h with h | ⟨_, -, h⟩
  · obtain ⟨s, -, hs⟩ := entriesFrom_eq_error h
    exact Site.entry?_eq_error hcfg hs
  · simp at h

end HeaderMock

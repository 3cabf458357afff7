import HeaderMock.Expectation
import HeaderMock.Proofs.Signature.Collected

/-!
# The parts of mocks and helpers

What the mock and the helpers of a signature are made of, and that all parts are there for a sound
signature: each parameter that is not skipped has one report in the mock and one slot in the
helpers, in the order of the parameters.

## Main definitions

* `Signature.checked`: the parameters that the mock library hears of.

## Main statements

* `Signature.mock_eq_ok_iff`, `Signature.helperHeads_eq_ok_iff`, `Signature.helpers_eq_ok_iff`: the
  parts.
* `Signature.Sound.exists_actualMatchers`, `Signature.Sound.exists_helperSlots`: one for each
  parameter that is not skipped.
* `Signature.Sound.exists_mock`, `Signature.Sound.exists_helpers`: nothing is missing.
-/

namespace HeaderMock

theorem SlotKind.exists_returned {k : SlotKind} (h : k.isValue) : ∃ v, k.returned = .ok v := by
  cases k with
  | value v => exact ⟨v, rfl⟩
  | _ => simp [SlotKind.isValue] at h

/-! ## Parameters -/

@[simp, grind =] theorem Override.actualMatcher?_eq_none_iff {o : Override} {name : String} :
    o.actualMatcher? name = none ↔ o.kind = .skip := by
  unfold Override.actualMatcher?
  dsimp only
  split <;> simp_all

@[simp, grind =] theorem Override.helperSlot?_eq_none_iff {o : Override} {p : Parameter} :
    o.helperSlot? p = none ↔ o.kind = .skip := by
  unfold Override.helperSlot?
  dsimp only
  split
  case h_2 => split <;> simp_all
  all_goals simp_all

theorem Classification.SuitsArgument.exists_actualMatcher {c : Classification}
    (h : c.SuitsArgument) (name : String) : ∃ a, c.actualMatcher name = .ok a := by
  unfold Classification.actualMatcher
  dsimp only
  split
  case h_5 kind _ _ _ _ =>
    have hk := h.kind
    cases kind <;> simp_all [SlotKind.isValue]
  all_goals exact ⟨_, rfl⟩

theorem Classification.SuitsArgument.kind_ne_skip {c : Classification} (h : c.SuitsArgument) :
    c.kind ≠ .skip := by
  intro hk
  have := h.kind
  simp [hk, SlotKind.isValue] at this

namespace Parameter

variable {p : Parameter} {o : Override} {c : Classification}

theorem isSkipped_of_override (ho : p.override = some o) :
    p.isSkipped = true ↔ o.kind = .skip := by
  simp only [isSkipped, slotKind?, ho, beq_iff_eq, Option.some.injEq]
  cases o.kind <;> simp [OverrideKind.slot]

theorem isSkipped_of_classification (ho : p.override = none) (hc : p.classification = some c) :
    p.isSkipped = true ↔ c.kind = .skip := by
  simp [isSkipped, slotKind?, ho, hc]

namespace Sound

/-- A skipped parameter is neither reported nor checked. -/
theorem of_isSkipped (h : p.Sound) (hs : p.isSkipped = true) :
    p.actualMatcher? = .ok none ∧ p.helperSlot? = .ok none := by
  refine ⟨?_, by simp [helperSlot?, hs]⟩
  cases h with
  | overridden o ho =>
    have hk := (isSkipped_of_override ho).mp hs
    simp [Parameter.actualMatcher?, ho, Override.actualMatcher?_eq_none_iff.mpr hk]
  | classified c ho hc hsuits =>
    exact absurd ((isSkipped_of_classification ho hc).mp hs) hsuits.kind_ne_skip

/-- Any other parameter is reported. -/
theorem exists_actualMatcher (h : p.Sound) (hs : p.isSkipped = false) :
    ∃ a, p.actualMatcher? = .ok (some a) := by
  cases h with
  | overridden o ho =>
    have hk : o.kind ≠ .skip := by simpa [hs] using isSkipped_of_override ho
    cases ha : o.actualMatcher? p.name with
    | none => exact absurd (Override.actualMatcher?_eq_none_iff.mp ha) hk
    | some a => exact ⟨a, by simp [Parameter.actualMatcher?, ho, ha]⟩
  | classified c ho hc hsuits =>
    obtain ⟨a, ha⟩ := hsuits.exists_actualMatcher p.name
    exact ⟨a, by simp [Parameter.actualMatcher?, ho, hc, ha]⟩

/-- Any other parameter is checked. -/
theorem exists_helperSlot (h : p.Sound) (hs : p.isSkipped = false) :
    ∃ slot, p.helperSlot? = .ok (some slot) := by
  cases h with
  | overridden o ho =>
    have hk : o.kind ≠ .skip := by simpa [hs] using isSkipped_of_override ho
    cases hslot : o.helperSlot? p with
    | none => exact absurd (Override.helperSlot?_eq_none_iff.mp hslot) hk
    | some slot => exact ⟨slot, by simp [Parameter.helperSlot?, hs, ho, hslot]⟩
  | classified c ho hc =>
    exact ⟨c.helperSlot p.name, by simp [Parameter.helperSlot?, hs, ho, hc]⟩

end Sound

end Parameter

/-! ## Signatures -/

namespace Signature

variable {sig : Signature}

/-- The parameters that the mock library hears of. -/
def checked (sig : Signature) : List Parameter := sig.parameters.filter (!·.isSkipped)

theorem mock_eq_ok_iff {m : Mock} :
    sig.mock = .ok m ↔ m.head = sig.head ∧ m.call.name = sig.qualifiedName ∧
      m.call.receiver = sig.receiver? ∧ sig.actualMatchers = .ok m.call.matchers ∧
      sig.readBack? = .ok m.readBack := by
  simp only [mock, bind_eq_ok_iff, pure_eq_ok_iff]
  constructor
  · rintro ⟨matchers, hm, readBack, hr, rfl⟩
    exact ⟨rfl, rfl, rfl, hm, hr⟩
  · rintro ⟨hh, hn, hr, hm, hb⟩
    refine ⟨_, hm, _, hb, ?_⟩
    rw [← hh, ← hn, ← hr]

theorem helperHeads_eq_ok_iff {h : HelperHeads} :
    sig.helperHeads = .ok h ↔ sig.helperSlots = .ok h.slots ∧ sig.returnType? = .ok h.returnType? ∧
      h.name = sig.helperName ∧ h.namespaces = sig.namespaces ∧
      h.owner? = (if sig.isMethod then some sig.owner else none) ∧
      h.ignoresObject = (sig.routine == .destructor) := by
  simp only [helperHeads, bind_eq_ok_iff, pure_eq_ok_iff]
  constructor
  · rintro ⟨slots, hs, type, ht, rfl⟩
    exact ⟨hs, ht, rfl, rfl, rfl, rfl⟩
  · rintro ⟨hs, ht, hn, hns, ho, hi⟩
    refine ⟨_, hs, _, ht, ?_⟩
    rw [← hn, ← hns, ← ho, ← hi]

theorem helpers_eq_ok_iff {h : Helpers} :
    sig.helpers = .ok h ↔ sig.helperHeads = .ok h.toHelperHeads ∧
      sig.returnExpr? = .ok h.returnExpr? ∧ h.call = sig.qualifiedName ∧
      h.isSkipping = sig.parameters.any (·.isSkipped) := by
  simp only [helpers, bind_eq_ok_iff, pure_eq_ok_iff]
  constructor
  · rintro ⟨heads, hh, e, he, rfl⟩
    exact ⟨hh, he, rfl, rfl⟩
  · rintro ⟨hh, he, hc, hs⟩
    refine ⟨_, hh, _, he, ?_⟩
    rw [← hc, ← hs]

/-- A helper hands over an answer exactly when calls give a value back. -/
theorem isSome_of_returnExpr? {e : Option Expr} (h : sig.returnExpr? = .ok e) :
    e.isSome = sig.returns := by
  unfold returnExpr? at h
  split at h
  · next o ho =>
    cases h
    simp [returns, ho]
  · next c ho hr =>
    obtain ⟨kind, -, rfl⟩ := map_eq_ok_iff.mp h
    simp [returns, hr]
  · next ho hr =>
    cases h
    simp [returns, ho, hr]

namespace Sound

theorem exists_actualMatchers (h : sig.Sound) :
    ∃ matchers, sig.actualMatchers = .ok matchers ∧
      List.Forall₂ (fun p a => p.actualMatcher? = .ok (some a)) sig.checked matchers := by
  apply exists_mapM_filterMap
  · intro p hp hs
    exact (h.parameters p hp).exists_actualMatcher (by simpa using hs)
  · intro p hp hs
    exact ((h.parameters p hp).of_isSkipped (by simpa using hs)).1

theorem exists_helperSlots (h : sig.Sound) :
    ∃ slots, sig.helperSlots = .ok slots ∧
      List.Forall₂ (fun p slot => p.helperSlot? = .ok (some slot)) sig.checked slots := by
  apply exists_mapM_filterMap
  · intro p hp hs
    exact (h.parameters p hp).exists_helperSlot (by simpa using hs)
  · intro p hp hs
    exact ((h.parameters p hp).of_isSkipped (by simpa using hs)).2

theorem exists_readBack (h : sig.Sound) : ∃ r, sig.readBack? = .ok r := by
  unfold readBack?
  split
  · next o ho =>
    obtain ⟨v, hv⟩ := SlotKind.exists_returned (h.resultOverride o ho)
    exact ⟨_, by rw [hv]; rfl⟩
  · next c _ hc =>
    obtain ⟨v, hv⟩ := SlotKind.exists_returned (h.result c hc).kind
    exact ⟨_, by rw [hv]; rfl⟩
  · exact ⟨none, rfl⟩

theorem exists_returnType (h : sig.Sound) : ∃ type, sig.returnType? = .ok type := by
  unfold returnType?
  split
  · next o ho =>
    split
    · exact ⟨_, rfl⟩
    · obtain ⟨v, hv⟩ := SlotKind.exists_returned (h.resultOverride o ho)
      exact ⟨_, by rw [hv]; rfl⟩
  · exact ⟨_, rfl⟩
  · exact ⟨none, rfl⟩

theorem exists_returnExpr (h : sig.Sound) : ∃ e, sig.returnExpr? = .ok e := by
  unfold returnExpr?
  split
  · exact ⟨_, rfl⟩
  · next c _ hc =>
    obtain ⟨v, hv⟩ := SlotKind.exists_returned (h.result c hc).kind
    exact ⟨_, by rw [hv]; rfl⟩
  · exact ⟨none, rfl⟩

/-- A sound signature has a mock, which reports each parameter that is not skipped. -/
theorem exists_mock (h : sig.Sound) :
    ∃ m, sig.mock = .ok m ∧
      List.Forall₂ (fun p a => p.actualMatcher? = .ok (some a)) sig.checked m.call.matchers := by
  obtain ⟨matchers, hm, hall⟩ := h.exists_actualMatchers
  obtain ⟨readBack, hr⟩ := h.exists_readBack
  let m : Mock :=
    { head := sig.head, readBack
      call := { name := sig.qualifiedName, receiver := sig.receiver?, matchers } }
  exact ⟨m, mock_eq_ok_iff.mpr ⟨rfl, rfl, rfl, hm, hr⟩, hall⟩

/-- A sound signature has helpers, with a slot for each parameter that is not skipped. -/
theorem exists_helpers (h : sig.Sound) :
    ∃ helpers, sig.helpers = .ok helpers ∧
      List.Forall₂ (fun p slot => p.helperSlot? = .ok (some slot)) sig.checked helpers.slots := by
  obtain ⟨slots, hs, hall⟩ := h.exists_helperSlots
  obtain ⟨type, ht⟩ := h.exists_returnType
  obtain ⟨e, he⟩ := h.exists_returnExpr
  let helpers : Helpers :=
    { name := sig.helperName, namespaces := sig.namespaces, slots, returnType? := type
      owner? := if sig.isMethod then some sig.owner else none
      ignoresObject := sig.routine == .destructor
      call := sig.qualifiedName, returnExpr? := e
      isSkipping := sig.parameters.any (·.isSkipped) }
  have heads : sig.helperHeads = .ok helpers.toHelperHeads :=
    helperHeads_eq_ok_iff.mpr ⟨hs, ht, rfl, rfl, rfl, rfl⟩
  exact ⟨helpers, helpers_eq_ok_iff.mpr ⟨heads, he, rfl, rfl⟩, hall⟩

end Sound

end Signature

end HeaderMock

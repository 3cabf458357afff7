import HeaderMock.Proofs.Sequencing
import HeaderMock.Slot.Classify
import Mathlib.Tactic.SplitIfs

/-!
# The range of the classification

Code can be written only for some classifications. Those of parameter types are handed over as a
value, as an output or by the name of their type, those of result types as a value, and whatever
they say to be used is there.

## Main definitions

* `Classification.SuitsArgument`, `Classification.SuitsResult`: what code for a parameter and for a
  result relies on.

## Main statements

* `CType.suits_classifyArgument`, `CType.suits_classifyResult`: all classifications are such.
-/

namespace HeaderMock

namespace Classification

/-- What code for a parameter relies on. -/
structure SuitsArgument (c : Classification) : Prop where
  kind : c.kind.isValue ∨ c.kind = .output ∨ c.kind = .inputOfType ∨ c.kind = .outputOfType
  tag : c.tag.isSome ↔ c.kind = .inputOfType ∨ c.kind = .outputOfType
  cast : c.castRequired = true ↔ c.castType.isSome

/-- What code for a result relies on. -/
structure SuitsResult (c : Classification) : Prop where
  kind : c.kind.isValue
  cast : c.castRequired = true ↔ c.castType.isSome
  byAddress : c.byAddress = true → c.castRequired = true

end Classification

namespace CType

open Classification

variable {t target : CType} {c : Classification}

/-! ## Arguments -/

theorem suits_scalarArgument (t : CType) (kind : ValueKind) :
    (t.scalarArgument kind).SuitsArgument := by
  constructor <;> simp [scalarArgument, SlotKind.isValue]

theorem suits_enumArgument (t : CType) : t.enumArgument.SuitsArgument := by
  constructor <;> simp [enumArgument, scalarArgument, SlotKind.isValue]

theorem suits_recordArgument (t : CType) (underlying : Bool) :
    (t.recordArgument underlying).SuitsArgument := by
  constructor <;> simp [recordArgument]

theorem suits_targetArgument {rendered : String} {byReference underlying : Bool}
    (h : target.targetArgument rendered byReference underlying = .ok c) : c.SuitsArgument := by
  unfold targetArgument at h
  dsimp only at h
  split_ifs at h <;> cases h <;> constructor <;> simp [SlotKind.isValue]

theorem suits_decayedArray (t : CType) (isConst arrayDecayed : Bool) (valueType : String) :
    (t.decayedArray isConst arrayDecayed valueType).SuitsArgument := by
  cases isConst <;> constructor <;> simp [decayedArray, SlotKind.isValue]

theorem suits_arrayArgument (h : t.arrayArgument = .ok c) : c.SuitsArgument := by
  obtain ⟨element, -, rfl⟩ := map_eq_ok_iff.mp h
  exact suits_decayedArray ..

theorem suits_typedefArrayArgument (h : t.typedefArrayArgument = .ok c) : c.SuitsArgument := by
  obtain ⟨isConst, -, rfl⟩ := map_eq_ok_iff.mp h
  exact suits_decayedArray ..

theorem suits_typedefArgument {underlying : Bool} (h : t.typedefArgument underlying = .ok c) :
    c.SuitsArgument := by
  unfold typedefArgument at h
  dsimp only at h
  split at h
  · cases h
    exact suits_scalarArgument ..
  split_ifs at h
  · cases h
    exact suits_enumArgument t
  · cases h
    exact suits_recordArgument ..
  · cases h
    constructor <;> simp [scalarArgument, SlotKind.isValue]
  · cases h
    constructor <;> simp [SlotKind.isValue]
  · exact suits_typedefArrayArgument h

theorem suits_directArgument {underlying : Bool} (h : t.directArgument underlying = .ok c) :
    c.SuitsArgument := by
  unfold directArgument at h
  dsimp only at h
  split at h
  · exact suits_typedefArgument h
  split at h
  · cases h
    exact suits_scalarArgument ..
  split_ifs at h
  · cases h
    exact suits_enumArgument t
  · exact suits_targetArgument h
  · obtain ⟨result, hr, rfl⟩ := map_eq_ok_iff.mp h
    have := suits_targetArgument hr
    exact ⟨this.kind, this.tag, this.cast⟩
  · exact suits_arrayArgument h
  · cases h
    exact suits_recordArgument ..

/-- Every classification of a parameter type suits a parameter. The recursion looks through rvalue
references to scalars, and changes nothing that code relies on. -/
theorem suits_classifyArgument {underlying : Bool} (h : t.classifyArgument underlying = .ok c) :
    c.SuitsArgument := by
  fun_induction classifyArgument underlying t generalizing c with
  | case1 =>
    rename_i ih
    obtain ⟨result, hr, rfl⟩ := map_eq_ok_iff.mp h
    have := ih hr
    exact ⟨this.kind, this.tag, this.cast⟩
  | case2 => exact suits_directArgument h
  | case3 => exact suits_directArgument h

/-! ## Results -/

theorem suits_recordResult (t : CType) : t.recordResult.SuitsResult := by
  constructor <;> simp [recordResult, SlotKind.isValue]

theorem suits_scalarResult (t : CType) (kind : ValueKind) (narrow : Bool) :
    (t.scalarResult kind narrow).SuitsResult := by
  cases narrow <;> constructor <;> simp [scalarResult, SlotKind.isValue]

theorem suits_pointerResult (h : t.pointerResult = .ok c) : c.SuitsResult := by
  unfold pointerResult at h
  dsimp only at h
  split_ifs at h <;> cases h <;> constructor <;> simp [SlotKind.isValue]

theorem suits_referenceResult (h : t.referenceResult = .ok c) : c.SuitsResult := by
  unfold referenceResult at h
  dsimp only at h
  split_ifs at h
  cases h
  constructor <;> simp [SlotKind.isValue]

theorem suits_typedefResult (h : t.typedefResult = .ok c) : c.SuitsResult := by
  unfold typedefResult at h
  dsimp only at h
  split at h
  · cases h
    exact suits_recordResult t
  split at h
  · cases h
    exact suits_scalarResult ..
  split_ifs at h
  · cases h
    exact suits_scalarResult ..
  · cases h
    constructor <;> simp [scalarResult, SlotKind.isValue]
  · cases h
    constructor <;> simp [scalarResult, SlotKind.isValue]

/-- Every classification of a result type suits a result. -/
theorem suits_classifyResult (h : t.classifyResult = .ok (some c)) : c.SuitsResult := by
  unfold classifyResult at h
  dsimp only at h
  split at h
  · simp at h
  obtain ⟨result, hr, hc⟩ := map_eq_ok_iff.mp h
  obtain rfl := Option.some.inj hc
  split at hr
  · exact suits_typedefResult hr
  split at hr
  · cases hr
    exact suits_scalarResult ..
  split_ifs at hr
  · cases hr
    exact suits_scalarResult ..
  · exact suits_pointerResult hr
  · exact suits_referenceResult hr
  · cases hr
    exact suits_recordResult t

end CType

end HeaderMock

import HeaderMock.Proofs.CType.Brackets
import HeaderMock.Proofs.Slot.Range

/-!
# Brackets in classifications

The texts of a classification are put together from the spellings of its type and of the types that
are reached from it. They are balanced if the spellings are.

## Main definitions

* `Classification.IsBalanced`: all texts of a classification are balanced.

## Main statements

* `CType.IsBalanced.classifyArgument`, `CType.IsBalanced.classifyResult`: classifications of types
  with balanced spellings are balanced.
-/

namespace HeaderMock

open Text

theorem ValueKind.balanced_nativeType (kind : ValueKind) : Balanced kind.nativeType := by
  cases kind <;> decide

/-- All texts of the classification are balanced. -/
structure Classification.IsBalanced (c : Classification) : Prop where
  rendered : Balanced c.rendered
  castType : ∀ type ∈ c.castType, Balanced type
  tag : ∀ tag ∈ c.tag, Balanced tag
  valueType : Balanced c.valueType

namespace CType.IsBalanced

open Spelling

variable {t target : CType} {c : Classification} {underlying : Bool}

/-! ## Spellings -/

theorem withoutConst (h : t.IsBalanced) : Balanced (withoutConst t.spelling) :=
  (balanced_congr (brackets_withoutConst _)).mpr h.spelling

theorem tagName (h : t.IsBalanced) (underlying : Bool) : Balanced (t.tagName underlying) := by
  refine (balanced_congr (brackets_bare _)).mpr ?_
  split
  · exact h.canonical.spelling
  · exact h.spelling

theorem pointerTo (h : t.IsBalanced) : Balanced (t.spelling ++ "*") := h.spelling.append (by decide)

theorem spacedPointerTo (h : t.IsBalanced) : Balanced (t.spelling ++ " *") :=
  h.spelling.append (by decide)

theorem referenceTo (h : t.IsBalanced) : Balanced (t.spelling ++ " &") :=
  h.spelling.append (by decide)

/-! ## Arguments -/

theorem scalarArgument (h : t.IsBalanced) (kind : ValueKind) :
    (t.scalarArgument kind).IsBalanced :=
  ⟨h.spelling, nofun, nofun, h.spelling⟩

theorem enumArgument (h : t.IsBalanced) : t.enumArgument.IsBalanced := by
  refine ⟨h.spelling, ?_, nofun, h.spelling⟩
  rintro _ ⟨⟩
  decide

theorem recordArgument (h : t.IsBalanced) (underlying : Bool) :
    (t.recordArgument underlying).IsBalanced := by
  refine ⟨h.spelling, nofun, ?_, .insert (by decide) h.withoutConst⟩
  rintro _ ⟨⟩
  exact h.tagName underlying

theorem targetArgument {rendered : String} {byReference : Bool} (h : target.IsBalanced)
    (hrendered : Balanced rendered)
    (hc : target.targetArgument rendered byReference underlying = .ok c) : c.IsBalanced := by
  have hpointer : Balanced (if byReference then target.spelling ++ " *" else rendered) := by
    split
    · exact h.spacedPointerTo
    · exact hrendered
  unfold CType.targetArgument at hc
  dsimp only at hc
  split at hc
  · cases hc
    exact ⟨hrendered, nofun, nofun, hpointer⟩
  split at hc
  · cases hc
    refine ⟨hrendered, nofun, ?_, balanced_constPointerTo h.withoutConst⟩
    rintro _ ⟨⟩
    exact h.tagName underlying
  split at hc
  · split at hc
    · cases hc
      exact ⟨hrendered, nofun, nofun, hrendered⟩
    split at hc
    · cases hc
      exact ⟨hrendered, nofun, nofun, hpointer⟩
    split at hc
    · cases hc
      exact ⟨hrendered, nofun, nofun, ValueKind.balanced_nativeType _⟩
    · cases hc
      exact ⟨hrendered, nofun, nofun, balanced_constPointerTo h.spelling⟩
  · cases hc

theorem decayedArray (h : t.IsBalanced) (isConst arrayDecayed : Bool) {valueType : String}
    (hvalue : Balanced valueType) :
    (t.decayedArray isConst arrayDecayed valueType).IsBalanced :=
  ⟨h.spelling, nofun, nofun, hvalue⟩

theorem arrayArgument (h : t.IsBalanced) (hc : t.arrayArgument = .ok c) : c.IsBalanced := by
  obtain ⟨element, helement, rfl⟩ := map_eq_ok_iff.mp hc
  refine h.decayedArray _ _ ?_
  split
  · exact (h.element helement).spacedPointerTo
  · exact ValueKind.balanced_nativeType _

theorem typedefArrayArgument (h : t.IsBalanced) (hc : t.typedefArrayArgument = .ok c) :
    c.IsBalanced := by
  obtain ⟨isConst, -, rfl⟩ := map_eq_ok_iff.mp hc
  exact h.decayedArray _ _ (ValueKind.balanced_nativeType _)

theorem typedefArgument (h : t.IsBalanced) (hc : t.typedefArgument underlying = .ok c) :
    c.IsBalanced := by
  unfold CType.typedefArgument at hc
  dsimp only at hc
  split at hc
  · cases hc
    exact h.scalarArgument _
  split_ifs at hc
  · cases hc
    exact h.enumArgument
  · cases hc
    exact h.recordArgument underlying
  · cases hc
    exact ⟨h.spelling, nofun, nofun, h.spelling⟩
  · cases hc
    exact ⟨h.spelling, nofun, nofun, h.canonical.pointee.spacedPointerTo⟩
  · exact h.typedefArrayArgument hc

theorem directArgument (h : t.IsBalanced) (hc : t.directArgument underlying = .ok c) :
    c.IsBalanced := by
  unfold CType.directArgument at hc
  dsimp only at hc
  split at hc
  · exact h.typedefArgument hc
  split at hc
  · cases hc
    exact h.scalarArgument _
  split_ifs at hc
  · cases hc
    exact h.enumArgument
  · exact h.pointee.targetArgument h.spelling hc
  · obtain ⟨result, hresult, rfl⟩ := map_eq_ok_iff.mp hc
    obtain ⟨hrendered, hcast, htag, hvalue⟩ := h.pointee.targetArgument h.spelling hresult
    exact ⟨hrendered, hcast, htag, hvalue⟩
  · exact h.arrayArgument hc
  · cases hc
    exact h.recordArgument underlying

theorem classifyArgument (h : t.IsBalanced) (hc : t.classifyArgument underlying = .ok c) :
    c.IsBalanced := by
  fun_induction CType.classifyArgument underlying t generalizing c with
  | case1 =>
    rename_i ih
    obtain ⟨result, hresult, rfl⟩ := map_eq_ok_iff.mp hc
    obtain ⟨-, hcast, htag, hvalue⟩ := ih h.pointee hresult
    exact ⟨h.spelling, hcast, htag, hvalue⟩
  | case2 => exact h.directArgument hc
  | case3 => exact h.directArgument hc

/-! ## Results -/

theorem recordResult (h : t.IsBalanced) : t.recordResult.IsBalanced := by
  refine ⟨h.spelling, ?_, ?_, .insert (by decide) h.withoutConst⟩
  · rintro _ ⟨⟩
    exact .insert (by decide) h.withoutConst
  · rintro _ ⟨⟩
    exact (balanced_congr (brackets_bare _)).mpr h.withoutConst

theorem scalarResult (h : t.IsBalanced) (kind : ValueKind) (narrow : Bool) :
    (t.scalarResult kind narrow).IsBalanced := by
  refine ⟨h.spelling, fun type htype => ?_, nofun, h.spelling⟩
  cases narrow with
  | false => cases htype
  | true =>
    cases htype
    exact h.spelling

theorem pointerResult (h : t.IsBalanced) (hc : t.pointerResult = .ok c) : c.IsBalanced := by
  unfold CType.pointerResult at hc
  dsimp only at hc
  split_ifs at hc
  · cases hc
    exact ⟨h.spelling, nofun, nofun, h.spelling⟩
  · cases hc
    exact ⟨h.spelling, nofun, nofun, h.spelling⟩
  · cases hc
    refine ⟨h.spelling, ?_, nofun, h.spelling⟩
    rintro _ ⟨⟩
    exact h.pointee.pointerTo

theorem referenceResult (h : t.IsBalanced) (hc : t.referenceResult = .ok c) : c.IsBalanced := by
  unfold CType.referenceResult at hc
  dsimp only at hc
  split_ifs at hc
  cases hc
  refine ⟨h.spelling, ?_, nofun, h.pointee.referenceTo⟩
  rintro _ ⟨⟩
  exact h.pointee.pointerTo

theorem typedefResult (h : t.IsBalanced) (hc : t.typedefResult = .ok c) : c.IsBalanced := by
  unfold CType.typedefResult at hc
  dsimp only at hc
  split at hc
  · cases hc
    exact h.recordResult
  split at hc
  · cases hc
    exact h.scalarResult ..
  split_ifs at hc
  · cases hc
    exact h.scalarResult ..
  · cases hc
    obtain ⟨hrendered, hcast, htag, hvalue⟩ :=
      h.scalarResult (hiddenPointer t.canonical.pointee) true
    exact ⟨hrendered, hcast, htag, hvalue⟩
  · cases hc
    refine ⟨h.spelling, ?_, nofun, h.canonical.pointee.referenceTo⟩
    rintro _ ⟨⟩
    exact h.canonical.pointee.pointerTo

theorem classifyResult (h : t.IsBalanced) (hc : t.classifyResult = .ok (some c)) :
    c.IsBalanced := by
  unfold CType.classifyResult at hc
  dsimp only at hc
  split at hc
  · simp at hc
  obtain ⟨result, hresult, heq⟩ := map_eq_ok_iff.mp hc
  obtain rfl := Option.some.inj heq
  split at hresult
  · exact h.typedefResult hresult
  split at hresult
  · cases hresult
    exact h.scalarResult ..
  split_ifs at hresult
  · cases hresult
    exact h.scalarResult ..
  · exact h.pointerResult hresult
  · exact h.referenceResult hresult
  · cases hresult
    exact h.recordResult

end CType.IsBalanced

end HeaderMock

import HeaderMock.Proofs.Slot.Constness

/-!
# Element types of arrays

The classification of a parameter type asks arrays for their element type, which a parser may leave
out. Where every array has one, a type is refused for no other reason than that it is not supported.

## Main definitions

* `TypeKind.isIndirect`: pointers, references and arrays.
* `CType.Reaches`: the types that are reached from a type.
* `CType.HasElements`: every array that is reached has an element type.

## Main statements

* `CType.exists_directTarget?`: what is asked for its target has one.
* `CType.HasElements.exists_target?`, `CType.HasElements.classifyArgument_ne_noElement`: nothing is
  missing for a parameter.
* `CType.classifyResult_ne_noElement`: nothing is ever missing for a result.
-/

namespace HeaderMock

/-- Pointers, references and arrays, which refer to a target. -/
def TypeKind.isIndirect (k : TypeKind) : Bool := k == .pointer || k.isReference || k.isArray

theorem TypeKind.isIndirect_iff {k : TypeKind} :
    k.isIndirect = true ↔ k = .pointer ∨ k.isReference = true ∨ k.isArray = true := by
  simp [isIndirect, or_assoc]

namespace CType

/-- The types that are reached from a type. -/
inductive Reaches (t : CType) : CType → Prop where
  | self : Reaches t t
  | desugar {u : CType} (h : Reaches t u) : Reaches t u.desugar
  | canonical {u : CType} (h : Reaches t u) : Reaches t u.canonical
  | pointee {u : CType} (h : Reaches t u) : Reaches t u.pointee

/-- Sugar apart, the type is an array. -/
def isArray (t : CType) : Bool := t.desugar.kind.isArray

/-- Every array that is reached from the type has an element type. -/
def HasElements (t : CType) : Prop :=
  ∀ u, t.Reaches u → u.isArray = true → u.element?.isSome = true

variable {t u : CType} {underlying : Bool}

theorem Reaches.trans {v : CType} (h : t.Reaches u) (h' : u.Reaches v) : t.Reaches v := by
  induction h' with
  | self => exact h
  | desugar _ ih => exact ih.desugar
  | canonical _ ih => exact ih.canonical
  | pointee _ ih => exact ih.pointee

/-- From a type that leads nowhere nothing else is reached. -/
theorem Reaches.eq_or_eq_invalid (h : t.Reaches u) (hkind : t.kind ≠ .elaborated)
    (hcanonical : t.canonical? = none) (hpointee : t.pointee? = none) : u = t ∨ u = invalid := by
  induction h with
  | self => exact .inl rfl
  | desugar _ ih =>
    rcases ih with rfl | rfl
    · exact .inl (desugar_eq_self hkind)
    · exact .inr rfl
  | canonical _ ih =>
    rcases ih with rfl | rfl
    · exact .inl (by simp [CType.canonical, hcanonical])
    · exact .inr rfl
  | pointee _ ih =>
    rcases ih with rfl | rfl
    · exact .inr (by simp [CType.pointee, hpointee])
    · exact .inr rfl

theorem reaches_matched (t : CType) : t.Reaches t.matched := by
  fun_induction matched t with
  | case1 kind spelling isConst canonical? pointee named? element? isVariadic t hmoved ih =>
    have hpointee : t.Reaches pointee := .pointee .self
    exact hpointee.trans ih
  | case2 => exact .self
  | case3 => exact .self

theorem isArray_of_kind (h : t.kind.isArray = true) : t.isArray = true := by
  have hkind : t.kind ≠ .elaborated := by
    intro hkind
    simp [hkind, TypeKind.isArray] at h
  rwa [isArray, desugar_eq_self hkind]

/-- Where an array has an element type, it is known whether the type refers to a target. -/
theorem exists_directTarget? (h : t.kind.isArray = true → t.element?.isSome = true) :
    ∃ target?, t.directTarget? = .ok target? ∧ target?.isSome = t.kind.isIndirect := by
  unfold directTarget?
  split
  · next hpointer =>
    refine ⟨_, rfl, (TypeKind.isIndirect_iff.mpr ?_).symm⟩
    exact hpointer.imp_right .inl
  split
  · next harray =>
    obtain ⟨element, helement⟩ := Option.isSome_iff_exists.mp (h harray)
    refine ⟨some element, by simp [element_eq_ok_iff.mpr helement], ?_⟩
    exact (TypeKind.isIndirect_iff.mpr (.inr (.inr harray))).symm
  · next hpointer harray =>
    refine ⟨none, rfl, ?_⟩
    simpa [TypeKind.isIndirect, harray, not_or] using hpointer

theorem targetArgument_ne_noElement {target : CType} {rendered : String} {byReference : Bool} :
    errorOf? (target.targetArgument rendered byReference underlying) ≠ some .noElement := by
  unfold targetArgument
  dsimp only
  split_ifs <;> exact nofun

theorem typedefArgument_ne_noElement
    (h : t.canonical.kind.isArray = true → t.canonical.element?.isSome = true) :
    errorOf? (t.typedefArgument underlying) ≠ some .noElement := by
  unfold typedefArgument
  dsimp only
  split
  · exact nofun
  by_cases harray : t.canonical.kind.isArray = true
  · obtain ⟨element, helement⟩ := Option.isSome_iff_exists.mp (h harray)
    have hlast : errorOf? t.typedefArrayArgument = none := by
      rw [typedefArrayArgument, errorOf?_map, hiddenArrayIsConst, element_eq_ok_iff.mpr helement]
      split <;> rfl
    split_ifs <;> simp [unsupported, hlast]
  · split_ifs <;> exact nofun

theorem directArgument_ne_noElement (ht : t.isArray = true → t.element?.isSome = true)
    (hc : t.canonical.kind.isArray = true → t.canonical.element?.isSome = true) :
    errorOf? (t.directArgument underlying) ≠ some .noElement := by
  unfold directArgument
  dsimp only
  split
  · exact typedefArgument_ne_noElement hc
  split
  · exact nofun
  split_ifs with _ _ _ harray
  · exact nofun
  · exact targetArgument_ne_noElement
  · rw [errorOf?_map]
    exact targetArgument_ne_noElement
  · obtain ⟨element, helement⟩ := Option.isSome_iff_exists.mp (ht harray)
    rw [arrayArgument, element_eq_ok_iff.mpr helement]
    exact nofun
  · exact nofun
  · exact nofun

namespace HasElements

theorem exists_target? (h : t.HasElements) : ∃ target?, t.target? = .ok target? := by
  obtain ⟨direct, hdirect, -⟩ := exists_directTarget? fun harray =>
    h _ (.desugar .self) (isArray_of_kind harray)
  obtain ⟨hidden, hhidden, -⟩ := exists_directTarget? fun harray =>
    h _ (.canonical .self) (isArray_of_kind harray)
  unfold target?
  rw [hdirect]
  cases direct with
  | some target => exact ⟨some target, rfl⟩
  | none => exact ⟨hidden, hhidden⟩

/-- Where no element type is missing, none is missed by the classification. -/
theorem classifyArgument_ne_noElement (h : t.HasElements) :
    errorOf? (t.classifyArgument underlying) ≠ some .noElement := by
  have hreach := t.reaches_matched
  rw [classifyArgument_eq, errorOf?_map]
  exact directArgument_ne_noElement (h _ hreach) fun harray =>
    h _ hreach.canonical (isArray_of_kind harray)

end HasElements

/-- Results are never asked for an element type. -/
theorem classifyResult_ne_noElement : errorOf? t.classifyResult ≠ some .noElement := by
  unfold classifyResult
  dsimp only
  split
  · exact nofun
  rw [errorOf?_map]
  split
  · unfold typedefResult
    dsimp only
    split
    · exact nofun
    split
    · exact nofun
    split_ifs <;> exact nofun
  split
  · exact nofun
  unfold pointerResult referenceResult
  dsimp only
  split_ifs <;> exact nofun

end CType

end HeaderMock

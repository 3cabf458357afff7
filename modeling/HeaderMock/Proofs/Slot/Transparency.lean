import HeaderMock.Proofs.Slot.FunctionAccess

/-!
# Typedefs of results

A result whose type is a typedef is classified by what is behind the typedef, in a way of its own.
It crosses the mock library as the type behind it does when that is written out.

## Main definitions

* `CType.IsPlain`: types that stand for nothing but themselves.
* `Classification.CrossesLike`: classifications that select the same calls of the mock library.
* `SettledAlike`: two classifications both succeed, alike, or both refuse their type.

## Main statements

* `CType.settledAlike_pointer`, `CType.settledAlike_reference`: pointers and references behind a
  typedef and written out.
* `CType.exists_settledAlike`: all types behind a typedef.
* `typedef_result_transparent`: results of a typedef cross like those of the type behind it.
-/

namespace HeaderMock

/-- Both classifications select the same calls of the mock library. -/
structure Classification.CrossesLike (a b : Classification) : Prop where
  kind : a.kind = b.kind
  byAddress : a.byAddress = b.byAddress
  pointerLike : a.pointerLike = b.pointerLike
  reference : a.reference = b.reference

/-- Both types are refused, under whatever spelling, or both are classified, alike. -/
inductive SettledAlike :
    Except TypeFault Classification → Except TypeFault Classification → Prop where
  | refused (a b : String) : SettledAlike (.error (.unsupported a)) (.error (.unsupported b))
  | classified {a b : Classification} (h : a.CrossesLike b) : SettledAlike (.ok a) (.ok b)

namespace CType

variable {t : CType}

/-- The type is its own canonical type, as far as its kind and constness go, and neither sugar nor a
typedef. -/
structure IsPlain (t : CType) : Prop where
  kind : t.canonical.kind = t.kind
  isConst : t.canonical.isConst = t.isConst
  notElaborated : t.kind ≠ .elaborated
  notTypedef : t.kind ≠ .typedef

theorem isPlain_invalid : invalid.IsPlain := ⟨rfl, rfl, nofun, nofun⟩

namespace IsPlain

theorem desugar_eq (h : t.IsPlain) : t.desugar = t := desugar_eq_self h.notElaborated

theorem isTypedef_eq (h : t.IsPlain) : t.isTypedef = false := by
  simp [isTypedef, h.desugar_eq, h.notTypedef]

theorem isConstAnywhere_eq (h : t.IsPlain) : t.isConstAnywhere = t.isConst := by
  simp [isConstAnywhere, h.isConst]

/-- A plain type is classified by its own kind. -/
theorem classifyResult_eq (h : t.IsPlain) (hvoid : t.kind ≠ .void) :
    t.classifyResult = Except.map some (
      match t.kind.scalar? with
      | some (value, narrow) => .ok (t.scalarResult value narrow)
      | none =>
        if t.kind = .enumeration then .ok (t.scalarResult .int true)
        else if t.kind = .pointer then t.pointerResult
        else if t.kind.isReference then t.referenceResult
        else if t.kind = .record then .ok t.recordResult
        else .error t.unsupported) := by
  simp only [classifyResult, isVoid, isRecord, h.kind, h.isTypedef_eq, h.desugar_eq, beq_iff_eq,
    hvoid, if_false, Bool.false_eq_true]
  cases t.kind.scalar? <;> rfl

end IsPlain

/-! ## Behind a typedef and written out -/

/-- A pointer behind a typedef holds what the pointer written out holds. -/
theorem settledAlike_pointer (hkind : t.canonical.kind = .pointer)
    (htarget : t.canonical.pointee.IsPlain) :
    SettledAlike t.typedefResult t.canonical.pointerResult := by
  unfold typedefResult pointerResult
  simp only [hkind, TypeKind.scalar?, reduceCtorEq, if_false, if_true, htarget.kind,
    htarget.desugar_eq, htarget.isConstAnywhere_eq]
  by_cases hfunction : t.canonical.pointee.kind = .function
  · rw [if_pos hfunction, if_pos hfunction]
    exact .refused _ _
  rw [if_neg hfunction, if_neg hfunction]
  by_cases hvoid : t.canonical.pointee.kind = .void
  · rw [if_pos hvoid]
    refine .classified ⟨?_, rfl, rfl, rfl⟩
    simp [scalarResult, hiddenPointer, hvoid, TypeKind.isCharacter]
  rw [if_neg hvoid]
  by_cases hstring :
      t.canonical.pointee.kind.isCharacter = true ∧ t.canonical.pointee.isConst = true
  · rw [if_pos hstring]
    refine .classified ⟨?_, rfl, rfl, rfl⟩
    simp [scalarResult, hiddenPointer, hstring]
  · rw [if_neg hstring]
    refine .classified ⟨?_, rfl, rfl, rfl⟩
    simp [scalarResult, hiddenPointer, hstring]

/-- So does a reference, unless it refers to a function, which is refused only if the reference is
written out. -/
theorem settledAlike_reference (hkind : t.canonical.kind.isReference = true)
    (hplain : t.canonical.IsPlain) (htarget : t.canonical.pointee.IsPlain)
    (hfunction : t.canonical.pointee.kind ≠ .function) :
    SettledAlike t.typedefResult t.canonical.referenceResult := by
  unfold typedefResult referenceResult
  dsimp only
  rw [htarget.kind, htarget.isConstAnywhere_eq, hplain.desugar_eq]
  rcases TypeKind.isReference_iff.mp hkind with hkind | hkind
  all_goals
    simp only [hkind, hfunction, TypeKind.scalar?, TypeKind.isReference, TypeKind.reference,
      reduceCtorEq, if_false, bne_iff_ne, ne_eq, not_false_eq_true, if_true]
    exact .classified ⟨rfl, rfl, rfl, rfl⟩

/-- Whatever is behind a typedef, the typedef and the type written out are classified alike. -/
theorem exists_settledAlike (hplain : t.canonical.IsPlain) (htarget : t.canonical.pointee.IsPlain)
    (hfunction : ¬(t.canonical.kind.isReference = true ∧ t.canonical.pointee.kind = .function))
    (hvoid : t.canonical.kind ≠ .void) :
    ∃ x, t.canonical.classifyResult = x.map some ∧ SettledAlike t.typedefResult x := by
  refine ⟨_, hplain.classifyResult_eq hvoid, ?_⟩
  cases hscalar : t.canonical.kind.scalar? with
  | some entry =>
    obtain ⟨value, narrow⟩ := entry
    have hrecord : t.canonical.kind ≠ .record := by
      intro hkind
      simp [hkind, TypeKind.scalar?] at hscalar
    simp only [typedefResult, hrecord, hscalar, if_false]
    exact .classified ⟨rfl, rfl, rfl, rfl⟩
  | none =>
    simp only
    split_ifs with henum hpointer hreference hrecord
    · simp only [typedefResult, henum]
      exact .classified ⟨rfl, rfl, rfl, rfl⟩
    · exact settledAlike_pointer hpointer htarget
    · exact settledAlike_reference hreference hplain htarget fun h => hfunction ⟨hreference, h⟩
    · simp only [typedefResult, hrecord, if_true]
      exact .classified ⟨rfl, rfl, rfl, rfl⟩
    · simp only [typedefResult, hscalar, henum, hpointer, hreference, hrecord, if_false]
      exact .refused _ _

end CType

/-- A typedef is transparent for a result: nothing crosses for it exactly if nothing crosses for the
type behind it, it is refused exactly if that type is, and otherwise both cross the mock library in
the same way. The type behind the typedef and its target are plain, as canonical types are, and it
is no reference to a function. -/
theorem typedef_result_transparent {t : CType} (htypedef : t.isTypedef = true)
    (hplain : t.canonical.IsPlain)
    (htarget : ∀ target, t.canonical.pointee? = some target → target.IsPlain)
    (hfunction : ¬(t.canonical.kind.isReference = true ∧ t.canonical.pointee.kind = .function)) :
    (t.classifyResult = .ok none ↔ t.canonical.classifyResult = .ok none) ∧
      ((∃ spelling, t.classifyResult = .error (.unsupported spelling)) ↔
        ∃ spelling, t.canonical.classifyResult = .error (.unsupported spelling)) ∧
      (t.classifyResult ≠ .ok none →
        (¬∃ spelling, t.classifyResult = .error (.unsupported spelling)) →
        ∃ a b, t.classifyResult = .ok (some a) ∧ t.canonical.classifyResult = .ok (some b) ∧
          a.kind = b.kind ∧ a.byAddress = b.byAddress ∧ a.pointerLike = b.pointerLike ∧
          a.reference = b.reference) := by
  by_cases hvoid : t.canonical.kind = .void
  · have hnone : t.classifyResult = .ok none := by simp [CType.classifyResult, CType.isVoid, hvoid]
    have hnone' : t.canonical.classifyResult = .ok none := by
      simp [CType.classifyResult, CType.isVoid, hplain.kind, hvoid]
    simp [hnone, hnone']
  · have hpointee : t.canonical.pointee.IsPlain := by
      unfold CType.pointee
      cases h : t.canonical.pointee? with
      | none => exact CType.isPlain_invalid
      | some target => exact htarget target h
    obtain ⟨x, hx, halike⟩ := CType.exists_settledAlike hplain hpointee hfunction hvoid
    have hresult : t.classifyResult = t.typedefResult.map some := by
      simp [CType.classifyResult, CType.isVoid, hvoid, htypedef]
    rw [hx, hresult]
    generalize t.typedefResult = y at halike
    cases halike with
    | refused a b => simp
    | @classified a b h =>
      refine ⟨by simp, by simp, fun _ _ => ?_⟩
      exact ⟨a, b, rfl, rfl, h.kind, h.byAddress, h.pointerLike, h.reference⟩

/-- `Text` behind `typedef const char *Text` -/
def CType.text : CType where
  kind := .elaborated
  spelling := "Text"
  canonical? := some
    { kind := .pointer, spelling := "const char *"
      pointee? := some { kind := .plainSignedChar, spelling := "const char", isConst := true } }
  named? := some { kind := .typedef, spelling := "Text" }

theorem typedef_result_transparent_text :
    CType.text.isTypedef = true ∧ CType.text.canonical.IsPlain ∧
      CType.text.canonical.pointee.IsPlain ∧
      ∃ a b, CType.text.classifyResult = .ok (some a) ∧
        CType.text.canonical.classifyResult = .ok (some b) ∧ b.kind = .value .string ∧
        a.kind = b.kind ∧ a.byAddress = b.byAddress ∧ a.pointerLike = b.pointerLike ∧
        a.reference = b.reference := by
  have hplain : CType.text.canonical.IsPlain := ⟨rfl, rfl, nofun, nofun⟩
  have htarget : CType.text.canonical.pointee.IsPlain := ⟨rfl, rfl, nofun, nofun⟩
  obtain ⟨-, -, halike⟩ := typedef_result_transparent (t := CType.text) rfl hplain
    (fun target h => by cases h; exact htarget) fun h => by cases h.2
  obtain ⟨a, b, ha, hb, hrest⟩ := halike nofun (by rintro ⟨_, ⟨⟩⟩)
  have hstring : b.kind = .value .string := by cases hb; rfl
  exact ⟨rfl, hplain, htarget, a, b, ha, hb, hstring, hrest⟩

end HeaderMock

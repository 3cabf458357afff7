import HeaderMock.Proofs.CType.Bare
import HeaderMock.Proofs.Slot.FunctionAccess
import HeaderMock.Proofs.Text.Split

/-!
# One name for each record

Objects of one record type are registered under one name, whether the record is handed over by
value, by a pointer or by a reference, constant or not, and whether it is a parameter or a result.

## Main definitions

* `CType.IsWrittenRecord`: record types that are written as such.
* `CType.IsConstOf`: the constant version of a type.
* `CType.IsPassedAs`: the types by which an object of a record type is handed over.

## Main statements

* `CType.IsVersionOf.tagName_eq`: both versions of a record type have one name.
* `one_tag_per_record`: so has every parameter by which the record is handed over, and its result.
-/

namespace HeaderMock

namespace CType

/-- A record type that is written as such: neither sugar nor a typedef, nor of a kind that hands
something else over than an object. -/
structure IsWrittenRecord (r : CType) : Prop where
  canonical_kind : r.canonical.kind = .record
  desugar_eq : r.desugar = r
  ne_typedef : r.kind ≠ .typedef
  not_scalar : r.kind.isScalarOrEnum = false
  not_indirect : r.kind ≠ .pointer ∧ r.kind.isReference = false ∧ r.kind.isArray = false

/-- The constant version of a record type. The spelling behind typedefs matters only where objects
are named after it. -/
structure IsConstOf (underlying : Bool) (c r : CType) : Prop extends c.IsWrittenRecord where
  isConst : c.isConst = true
  spelling : c.spelling = "const " ++ r.spelling
  canonical_spelling : underlying = true → c.canonical.spelling = "const " ++ r.canonical.spelling

/-- The type itself or its constant version. -/
def IsVersionOf (underlying : Bool) (t r : CType) : Prop := t = r ∨ t.IsConstOf underlying r

/-- An object of the record type `r` is handed over as `t`: by value, by a pointer or by a
reference, and constant or not. -/
inductive IsPassedAs (underlying : Bool) (r t : CType) : Prop where
  | byValue (h : t.IsVersionOf underlying r)
  | byPointer (hkind : t.kind = .pointer) (h : t.pointee.IsVersionOf underlying r)
  | byReference (hkind : t.kind.isReference = true) (h : t.pointee.IsVersionOf underlying r)

variable {r t : CType} {underlying : Bool}

theorem IsVersionOf.isWrittenRecord (h : t.IsVersionOf underlying r) (hr : r.IsWrittenRecord) :
    t.IsWrittenRecord := by
  rcases h with rfl | h
  · exact hr
  · exact h.toIsWrittenRecord

/-- Both versions of a record type have one name. -/
theorem IsVersionOf.tagName_eq (h : t.IsVersionOf underlying r) :
    t.tagName underlying = r.tagName underlying := by
  rcases h with rfl | h
  · rfl
  · cases underlying with
    | false => exact (congrArg Spelling.bare h.spelling).trans (Spelling.bare_const r.spelling)
    | true =>
      exact (congrArg Spelling.bare (h.canonical_spelling rfl)).trans
        (Spelling.bare_const r.canonical.spelling)

namespace IsWrittenRecord

theorem isTypedef_eq (h : r.IsWrittenRecord) : r.isTypedef = false := by
  simp [isTypedef, h.desugar_eq, h.ne_typedef]

theorem scalar?_eq (h : r.IsWrittenRecord) : r.kind.scalar? = none := by
  simpa [TypeKind.isScalarOrEnum] using (Bool.or_eq_false_iff.mp h.not_scalar).1

theorem ne_enumeration (h : r.IsWrittenRecord) : r.kind ≠ .enumeration := by
  simpa using (Bool.or_eq_false_iff.mp h.not_scalar).2

theorem classifyArgument_eq (h : r.IsWrittenRecord) :
    r.classifyArgument underlying = .ok (r.recordArgument underlying) := by
  obtain ⟨hpointer, hreference, harray⟩ := h.not_indirect
  have hmoved : r.isMovedScalar = false := by
    have hkind : r.kind ≠ .rvalueReference := by
      intro hkind
      simp [hkind, TypeKind.isReference, TypeKind.reference] at hreference
    simp [isMovedScalar, h.desugar_eq, hkind]
  rw [classifyArgument_of_not_isMovedScalar hmoved, directArgument, h.desugar_eq]
  simp [h.isTypedef_eq, h.scalar?_eq, h.ne_enumeration, hpointer, hreference, harray, isRecord,
    h.canonical_kind]

theorem classifyResult_eq (h : r.IsWrittenRecord) :
    r.classifyResult = .ok (some r.recordResult) := by
  obtain ⟨hpointer, hreference, -⟩ := h.not_indirect
  rw [classifyResult, h.desugar_eq]
  simp [isVoid, h.canonical_kind, h.isTypedef_eq, h.scalar?_eq, h.ne_enumeration, hpointer,
    hreference, isRecord, Except.map]

end IsWrittenRecord

/-- A result is named as a parameter is, by the type as it is written. -/
@[simp, grind =] theorem tag_recordResult (r : CType) :
    r.recordResult.tag = some (r.tagName false) := by
  rcases Text.withoutStart_cases r.spelling "const " with ⟨rest, hspelling, -, hrest⟩ | ⟨-, hsame⟩
  · have hbare : Spelling.bare rest = Spelling.bare r.spelling := by
      rw [hspelling, Spelling.bare_const]
    simp [recordResult, Spelling.withoutConst, hrest, tagName, hbare]
  · simp [recordResult, Spelling.withoutConst, hsame, tagName]

theorem exists_tag_of_targetArgument {target : CType} (htarget : target.canonical.kind = .record)
    (rendered : String) (byReference underlying : Bool) :
    ∃ c, target.targetArgument rendered byReference underlying = .ok c ∧
      c.tag = some (target.tagName underlying) := by
  simp [targetArgument, htarget]

/-- A pointer or a reference to a record is named after the record. -/
theorem exists_tag_of_pointee (hkind : t.kind = .pointer ∨ t.kind.isReference = true)
    (htarget : t.pointee.canonical.kind = .record) :
    ∃ c, t.classifyArgument underlying = .ok c ∧ c.tag = some (t.pointee.tagName underlying) := by
  have hmoved : t.isMovedScalar = false := by
    simp [isMovedScalar, htarget, TypeKind.isScalarOrEnum, TypeKind.scalar?]
  rw [classifyArgument_of_not_isMovedScalar hmoved]
  rcases hkind with hk | hk
  · have hdesugar : t.desugar = t := desugar_eq_self (by simp [hk])
    simpa [directArgument, isTypedef, hdesugar, hk, TypeKind.scalar?] using
      exists_tag_of_targetArgument htarget t.spelling false underlying
  · obtain ⟨c, hc, htag⟩ := exists_tag_of_targetArgument htarget t.spelling true underlying
    refine ⟨{ c with reference := t.kind.reference }, ?_, htag⟩
    rcases TypeKind.isReference_iff.mp hk with hk | hk
    all_goals
      have hdesugar : t.desugar = t := desugar_eq_self (by simp [hk])
      simp [directArgument, isTypedef, hdesugar, hk, TypeKind.scalar?, TypeKind.isReference,
        TypeKind.reference, hc, Except.map]

/-- Every parameter by which an object of a record type is handed over is named after the record. -/
theorem IsPassedAs.exists_tag (h : r.IsPassedAs underlying t) (hr : r.IsWrittenRecord) :
    ∃ c, t.classifyArgument underlying = .ok c ∧ c.tag = some (r.tagName underlying) := by
  cases h with
  | byValue hversion =>
    refine ⟨t.recordArgument underlying, (hversion.isWrittenRecord hr).classifyArgument_eq, ?_⟩
    rw [← hversion.tagName_eq]
    rfl
  | byPointer hkind hversion =>
    rw [← hversion.tagName_eq]
    exact exists_tag_of_pointee (.inl hkind) (hversion.isWrittenRecord hr).canonical_kind
  | byReference hkind hversion =>
    rw [← hversion.tagName_eq]
    exact exists_tag_of_pointee (.inr hkind) (hversion.isWrittenRecord hr).canonical_kind

end CType

/-- Objects of a record type are registered under one name. A `const` in front of a spelling leaves
its bare form as it is; so the record, its constant version, and pointers and references to either
have one name as parameters, and this is the name of the record as a result. With the names of the
types behind typedefs the parameters again have one name. -/
theorem one_tag_per_record (s : String) {r : CType} (hr : r.IsWrittenRecord) :
    Spelling.bare ("const " ++ s) = Spelling.bare s ∧
    (∀ t, r.IsPassedAs false t →
      ∃ c, t.classifyArgument false = .ok c ∧ c.tag = some (Spelling.bare r.spelling)) ∧
    (∀ t, r.IsPassedAs true t →
      ∃ c, t.classifyArgument true = .ok c ∧ c.tag = some (Spelling.bare r.canonical.spelling)) ∧
    ∀ t : CType, t.IsVersionOf false r →
      ∃ c, t.classifyResult = .ok (some c) ∧ c.tag = some (Spelling.bare r.spelling) := by
  refine ⟨Spelling.bare_const s, fun t ht => ht.exists_tag hr, fun t ht => ht.exists_tag hr,
    fun t ht => ⟨t.recordResult, (ht.isWrittenRecord hr).classifyResult_eq, ?_⟩⟩
  rw [t.tag_recordResult, ht.tagName_eq]
  rfl

/-- `Box<int>`, which is known as `ns::Box<int>` behind its name. -/
def CType.box : CType where
  kind := .unexposed
  spelling := "Box<int>"
  canonical? := some { kind := .record, spelling := "ns::Box<int>" }

/-- `const Box<int>` -/
def CType.constBox : CType where
  kind := .unexposed
  spelling := "const Box<int>"
  isConst := true
  canonical? := some { kind := .record, spelling := "const ns::Box<int>", isConst := true }

/-- A box, a moved box and a reference to a constant box have one name. -/
theorem one_tag_per_record_box :
    ∃ moved referred underlying result,
      CType.classifyArgument false
        { kind := .rvalueReference, spelling := "Box<int> &&", pointee? := some .box } = .ok moved ∧
      CType.classifyArgument false
        { kind := .lvalueReference, spelling := "const Box<int> &", pointee? := some .constBox } =
          .ok referred ∧
      CType.classifyArgument true
        { kind := .lvalueReference, spelling := "const Box<int> &", pointee? := some .constBox } =
          .ok underlying ∧
      CType.box.classifyResult = .ok (some result) ∧
      moved.tag = some (Spelling.bare "Box<int>") ∧ referred.tag = moved.tag ∧
      result.tag = moved.tag ∧ underlying.tag = some (Spelling.bare "ns::Box<int>") := by
  have hbox : CType.box.IsWrittenRecord := ⟨rfl, rfl, by decide, by decide, by decide⟩
  have hconst (underlying : Bool) : CType.constBox.IsConstOf underlying .box :=
    ⟨⟨rfl, rfl, by decide, by decide, by decide⟩, rfl, by decide, fun _ => by decide⟩
  obtain ⟨-, hargument, hunderlying, hresult⟩ := one_tag_per_record "Box<int>" hbox
  obtain ⟨moved, hmoved, htag⟩ := hargument
    { kind := .rvalueReference, spelling := "Box<int> &&", pointee? := some .box }
    (.byReference rfl (.inl rfl))
  obtain ⟨referred, hreferred, htag'⟩ := hargument
    { kind := .lvalueReference, spelling := "const Box<int> &", pointee? := some .constBox }
    (.byReference rfl (.inr (hconst false)))
  obtain ⟨underlying, hbehind, hname⟩ := hunderlying
    { kind := .lvalueReference, spelling := "const Box<int> &", pointee? := some .constBox }
    (.byReference rfl (.inr (hconst true)))
  obtain ⟨result, hreturned, htag''⟩ := hresult .box (.inl rfl)
  exact ⟨moved, referred, underlying, result, hmoved, hreferred, hbehind, hreturned, htag,
    htag'.trans htag.symm, htag''.trans htag.symm, hname⟩

end HeaderMock

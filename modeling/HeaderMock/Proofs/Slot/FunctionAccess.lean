import HeaderMock.Proofs.Slot.Range

/-!
# Pointers and references to functions

The mock library has no slot for functions, so a pointer or a reference to one should be refused.
The classification looks for functions at five places, and not all of them look for the same: a
result is refused if the function has a prototype, a parameter in any case, and a typedef only if it
hides a pointer to a function with a prototype. All else is handed over as a pointer to data.

## Main definitions

* `CType.AccessesFunction`: pointers and references to functions, however they are written.
* `CType.SeesPrototype`: the target that the type tells of is a function with a prototype.
* `CType.HidesReference`: a typedef of a reference.

## Main statements

* `CType.refusedIf_pointerResult` and the lemmas after it: what each place refuses.
* `function_access_refused_iff`: which pointers and references to functions are refused.
* `function_access_accepted`: some that are not.
-/

namespace HeaderMock

/-- Functions, with or without a prototype. -/
def TypeKind.isFunction : TypeKind → Bool
  | .function | .functionNoPrototype => true
  | _ => false

theorem TypeKind.isFunction_iff {k : TypeKind} :
    k.isFunction = true ↔ k = .function ∨ k = .functionNoPrototype := by
  cases k <;> simp [isFunction]

theorem TypeKind.isReference_iff {k : TypeKind} :
    k.isReference = true ↔ k = .lvalueReference ∨ k = .rvalueReference := by
  cases k <;> simp [isReference, reference]

namespace CType

/-- The type stands for a pointer or a reference to a function. -/
structure AccessesFunction (t : CType) : Prop where
  indirect : t.canonical.kind = .pointer ∨ t.canonical.kind.isReference = true
  function : t.canonical.pointee.kind.isFunction = true
  /-- It is a typedef or written as what it stands for, where sugar may hide the target. -/
  written : t.isTypedef = true ∨ t.desugar.kind = t.canonical.kind ∧
    (t.pointee.canonical.kind = t.canonical.pointee.kind ∨ t.pointee? = none)

/-- The target is a function with a prototype, as far as the type tells. A typedef is asked for what
is behind it, any other type for its target as it is written. -/
def SeesPrototype (t : CType) : Prop :=
  (if t.isTypedef then t.canonical.pointee else t.pointee.canonical).kind = .function

/-- The type is a typedef of a reference. -/
def HidesReference (t : CType) : Prop :=
  t.isTypedef = true ∧ t.canonical.kind.isReference = true

/-- A classification refuses the type if `p` holds, and otherwise hands it over as a pointer. -/
def RefusedIf (p : Prop) (x : Except TypeFault Classification) : Prop :=
  (p ∧ ∃ spelling, x = .error (.unsupported spelling)) ∨
    ¬p ∧ ∃ c, x = .ok c ∧ c.pointerLike = true

variable {t target : CType} {underlying : Bool}

/-! ## Results -/

theorem refusedIf_pointerResult (t : CType) :
    RefusedIf (t.pointee.canonical.kind = .function) t.pointerResult := by
  unfold pointerResult
  dsimp only
  split_ifs with hfunction
  · exact .inl ⟨hfunction, _, rfl⟩
  all_goals exact .inr ⟨hfunction, _, rfl, rfl⟩

theorem refusedIf_referenceResult (t : CType) :
    RefusedIf (t.pointee.canonical.kind = .function) t.referenceResult := by
  unfold referenceResult
  dsimp only
  split_ifs with hfunction
  · exact .inl ⟨hfunction, _, rfl⟩
  · exact .inr ⟨hfunction, _, rfl, rfl⟩

theorem refusedIf_typedefResult
    (h : t.canonical.kind = .pointer ∨ t.canonical.kind.isReference = true) :
    RefusedIf (t.canonical.kind = .pointer ∧ t.canonical.pointee.kind = .function)
      t.typedefResult := by
  unfold typedefResult
  rcases h with h | h
  · by_cases hfunction : t.canonical.pointee.kind = .function
    · simp [RefusedIf, h, hfunction, TypeKind.scalar?, unsupported]
    · simp [RefusedIf, h, hfunction, TypeKind.scalar?]
  · rcases TypeKind.isReference_iff.mp h with hkind | hkind <;>
      simp [RefusedIf, hkind, TypeKind.scalar?, TypeKind.isReference, TypeKind.reference]

theorem RefusedIf.congr {p q : Prop} {x : Except TypeFault Classification} (h : RefusedIf p x)
    (hpq : p ↔ q) : RefusedIf q x := by
  rwa [RefusedIf, ← hpq]

theorem sees_and_not_hides_of_typedef (htypedef : t.isTypedef = true)
    (h : t.canonical.kind = .pointer ∨ t.canonical.kind.isReference = true) :
    t.SeesPrototype ∧ ¬t.HidesReference ↔
      t.canonical.kind = .pointer ∧ t.canonical.pointee.kind = .function := by
  have hpointer : ¬t.canonical.kind.isReference = true ↔ t.canonical.kind = .pointer := by
    refine ⟨h.resolve_right, fun hkind => ?_⟩
    simp [hkind, TypeKind.isReference, TypeKind.reference]
  simp only [SeesPrototype, HidesReference, htypedef, if_true, true_and, hpointer]
  exact and_comm

theorem sees_and_not_hides_of_direct (htypedef : t.isTypedef = false) :
    t.SeesPrototype ∧ ¬t.HidesReference ↔ t.pointee.canonical.kind = .function := by
  simp [SeesPrototype, HidesReference, htypedef]

/-- A result is refused if the type tells of a function with a prototype. -/
theorem AccessesFunction.refusedIf_classifyResult (h : t.AccessesFunction) :
    ∃ x, t.classifyResult = x.map some ∧ RefusedIf (t.SeesPrototype ∧ ¬t.HidesReference) x := by
  have hvoid : t.isVoid = false := by
    rcases h.indirect with hkind | hkind
    · simp [isVoid, hkind]
    · rcases TypeKind.isReference_iff.mp hkind with hkind | hkind <;> simp [isVoid, hkind]
  unfold classifyResult
  cases htypedef : t.isTypedef with
  | true =>
    refine ⟨t.typedefResult, by simp [hvoid], ?_⟩
    exact (refusedIf_typedefResult h.indirect).congr
      (sees_and_not_hides_of_typedef htypedef h.indirect).symm
  | false =>
    have hcond := (sees_and_not_hides_of_direct htypedef).symm
    obtain ⟨hkind, -⟩ := h.written.resolve_left (by simp [htypedef])
    rcases h.indirect with hindirect | hindirect
    · refine ⟨t.pointerResult, ?_, (refusedIf_pointerResult t).congr hcond⟩
      simp [hvoid, hkind, hindirect, TypeKind.scalar?]
    · refine ⟨t.referenceResult, ?_, (refusedIf_referenceResult t).congr hcond⟩
      rcases TypeKind.isReference_iff.mp hindirect with hindirect | hindirect <;>
        simp [hvoid, hkind, hindirect, TypeKind.scalar?, TypeKind.isReference, TypeKind.reference]

/-! ## Arguments -/

/-- The kinds that the target of a written pointer or reference to a function can show. -/
def IsUnmockedTarget (target : CType) : Prop :=
  target.canonical.kind.isFunction = true ∨ target.canonical.kind = .invalid

theorem IsUnmockedTarget.targetArgument_eq (h : target.IsUnmockedTarget) (rendered : String)
    (byReference underlying : Bool) :
    target.targetArgument rendered byReference underlying = .error target.unsupported := by
  unfold targetArgument
  rcases h with h | h
  · rcases TypeKind.isFunction_iff.mp h with h | h <;>
      simp [h, TypeKind.isScalarOrEnum, TypeKind.scalar?]
  · simp [h, TypeKind.isScalarOrEnum, TypeKind.scalar?]

theorem IsUnmockedTarget.not_isMovedScalar (h : t.pointee.IsUnmockedTarget) :
    t.isMovedScalar = false := by
  have hscalar : t.pointee.canonical.kind.isScalarOrEnum = false := by
    rcases h with h | h
    · rcases TypeKind.isFunction_iff.mp h with h | h <;>
        simp [h, TypeKind.isScalarOrEnum, TypeKind.scalar?]
    · simp [h, TypeKind.isScalarOrEnum, TypeKind.scalar?]
  simp [isMovedScalar, hscalar]

theorem classifyArgument_of_not_isMovedScalar (h : t.isMovedScalar = false) :
    t.classifyArgument underlying = t.directArgument underlying := by
  fun_cases classifyArgument underlying t with
  | case1 _ _ _ _ _ _ _ _ _ hmoved => cases h.symm.trans hmoved
  | case2 => rfl
  | case3 => rfl

theorem refusedIf_typedefArgument
    (h : t.canonical.kind = .pointer ∨ t.canonical.kind.isReference = true) :
    RefusedIf (t.canonical.kind = .pointer ∧ t.canonical.pointee.kind = .function)
      (t.typedefArgument underlying) := by
  unfold typedefArgument
  rcases h with h | h
  · by_cases hfunction : t.canonical.pointee.kind = .function
    · simp [RefusedIf, h, hfunction, TypeKind.scalar?, unsupported]
    · simp [RefusedIf, h, hfunction, TypeKind.scalar?]
  · rcases TypeKind.isReference_iff.mp h with hkind | hkind <;>
      simp [RefusedIf, hkind, TypeKind.scalar?, TypeKind.isReference, TypeKind.reference]

/-- A written pointer or reference to a function is refused as a parameter. -/
theorem AccessesFunction.isUnmockedTarget (h : t.AccessesFunction)
    (htypedef : t.isTypedef = false) : t.pointee.IsUnmockedTarget := by
  obtain ⟨-, hpointee | hpointee⟩ := h.written.resolve_left (by simp [htypedef])
  · exact .inl (hpointee ▸ h.function)
  · exact .inr (by simp [pointee, hpointee, invalid, canonical])

/-- A parameter is refused unless it is a typedef that hides a reference or a function without a
prototype. -/
theorem AccessesFunction.refusedIf_classifyArgument (h : t.AccessesFunction) (underlying : Bool) :
    RefusedIf (t.isTypedef = false ∨ t.SeesPrototype ∧ ¬t.HidesReference)
      (t.classifyArgument underlying) := by
  cases htypedef : t.isTypedef with
  | true =>
    have hdirect : t.classifyArgument underlying = t.typedefArgument underlying := by
      rw [classifyArgument_of_not_isMovedScalar (by simp [isMovedScalar, htypedef]), directArgument,
        if_pos htypedef]
    rw [hdirect]
    refine (refusedIf_typedefArgument h.indirect).congr ?_
    simp [sees_and_not_hides_of_typedef htypedef h.indirect]
  | false =>
    have htarget := h.isUnmockedTarget htypedef
    obtain ⟨hkind, -⟩ := h.written.resolve_left (by simp [htypedef])
    refine .inl ⟨.inl rfl, t.pointee.spelling, ?_⟩
    rw [classifyArgument_of_not_isMovedScalar htarget.not_isMovedScalar, directArgument]
    rcases h.indirect with hindirect | hindirect
    · simp [htypedef, hkind, hindirect, TypeKind.scalar?, htarget.targetArgument_eq, unsupported]
    · rcases TypeKind.isReference_iff.mp hindirect with hindirect | hindirect <;>
        simp [htypedef, hkind, hindirect, TypeKind.scalar?, TypeKind.isReference,
          TypeKind.reference, htarget.targetArgument_eq, unsupported, Except.map]

/-! ## Which types are refused -/

theorem RefusedIf.exists_error_iff {p : Prop} {x : Except TypeFault Classification}
    (h : RefusedIf p x) : (∃ spelling, x = .error (.unsupported spelling)) ↔ p := by
  rcases h with ⟨hp, spelling, rfl⟩ | ⟨hp, c, rfl, -⟩ <;> simp [hp]

theorem RefusedIf.exists_ok_iff {p : Prop} {x : Except TypeFault Classification}
    (h : RefusedIf p x) : (∃ c, x = .ok c ∧ c.pointerLike = true) ↔ ¬p := by
  rcases h with ⟨hp, spelling, rfl⟩ | ⟨hp, c, rfl, hc⟩ <;> simp [hp]
  exact hc

end CType

/-- A pointer or reference to a function is refused as a result if the type tells of a function with
a prototype, unless it is a typedef of a reference, and as a parameter under the same condition or
if it is no typedef. Otherwise it is handed over as a pointer. -/
theorem function_access_refused_iff {t : CType} (h : t.AccessesFunction) :
    ((∃ spelling, t.classifyResult = .error (.unsupported spelling)) ↔
        t.SeesPrototype ∧ ¬t.HidesReference) ∧
      ((∃ c, t.classifyResult = .ok (some c) ∧ c.pointerLike = true) ↔
        ¬(t.SeesPrototype ∧ ¬t.HidesReference)) ∧
      ∀ underlying,
        ((∃ spelling, t.classifyArgument underlying = .error (.unsupported spelling)) ↔
            t.isTypedef = false ∨ t.SeesPrototype ∧ ¬t.HidesReference) ∧
          ((∃ c, t.classifyArgument underlying = .ok c ∧ c.pointerLike = true) ↔
            ¬(t.isTypedef = false ∨ t.SeesPrototype ∧ ¬t.HidesReference)) := by
  obtain ⟨x, hx, hresult⟩ := h.refusedIf_classifyResult
  have herror (fault : TypeFault) : x.map some = .error fault ↔ x = .error fault := by
    cases x <;> simp
  have hok (c : Classification) : x.map some = .ok (some c) ↔ x = .ok c := by
    cases x <;> simp
  refine ⟨?_, ?_, fun underlying => ?_⟩
  · simpa only [hx, herror] using hresult.exists_error_iff
  · simpa only [hx, hok] using hresult.exists_ok_iff
  · have hargument := h.refusedIf_classifyArgument underlying
    exact ⟨hargument.exists_error_iff, hargument.exists_ok_iff⟩

/-- `Callback` behind `typedef void (*Callback)(int)` -/
def CType.callback : CType where
  kind := .elaborated
  spelling := "Callback"
  canonical? := some
    { kind := .pointer, spelling := "void (*)(int)"
      pointee? := some { kind := .function, spelling := "void (int)" } }
  named? := some { kind := .typedef, spelling := "Callback" }

theorem function_access_refused_iff_callback :
    CType.callback.AccessesFunction ∧
      (∃ spelling, CType.callback.classifyResult = .error (.unsupported spelling)) ∧
      ∀ underlying, ∃ spelling,
        CType.callback.classifyArgument underlying = .error (.unsupported spelling) := by
  have h : CType.callback.AccessesFunction := ⟨.inl rfl, rfl, .inl rfl⟩
  have hcond : CType.callback.SeesPrototype ∧ ¬CType.callback.HidesReference :=
    ⟨rfl, fun hhides => absurd hhides.2 (by decide)⟩
  obtain ⟨hresult, -, hargument⟩ := function_access_refused_iff h
  exact ⟨h, hresult.mpr hcond, fun underlying => (hargument underlying).1.mpr (.inr hcond)⟩

/-- `Handler` behind `typedef void (&Handler)(int)` -/
def CType.handler : CType where
  kind := .typedef
  spelling := "Handler"
  canonical? := some
    { kind := .lvalueReference, spelling := "void (&)(int)"
      pointee? := some { kind := .function, spelling := "void (int)" } }

/-- `void (*)()` in C, which says nothing about parameters -/
def CType.oldCallback : CType where
  kind := .pointer
  spelling := "void (*)()"
  pointee? := some { kind := .functionNoPrototype, spelling := "void ()" }

/-- A typedef of a reference to a function is handed over like data, and so is a returned pointer to
a function without a prototype. -/
theorem function_access_accepted :
    (CType.handler.AccessesFunction ∧ (∃ c, CType.handler.classifyResult = .ok (some c)) ∧
        ∀ underlying, ∃ c, CType.handler.classifyArgument underlying = .ok c) ∧
      CType.oldCallback.AccessesFunction ∧
        ∃ c, CType.oldCallback.classifyResult = .ok (some c) :=
  ⟨⟨⟨.inr rfl, rfl, .inl rfl⟩, ⟨_, rfl⟩, fun _ => ⟨_, rfl⟩⟩, ⟨.inl rfl, rfl, .inr ⟨rfl, .inl rfl⟩⟩,
    ⟨_, rfl⟩⟩

end HeaderMock

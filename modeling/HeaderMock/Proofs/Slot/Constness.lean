import HeaderMock.Proofs.Slot.Range

/-!
# Constness of classified parameters

Whether the target of a pointer, a reference or an array is constant is asked in a different way for
each form of a type. Whatever the form, a constant target is handed over as an input, any other as
an output or as a plain pointer, and the type that a helper takes follows from it.

## Main definitions

* `CType.matched`: the type by which a parameter is matched.
* `CType.shownKind`, `CType.targetIsConst`: the kind of a type behind its typedefs, and whether what
  it refers to is constant.
* `CType.HandsOver`: the forms that the classification of a parameter type can take.

## Main statements

* `CType.classifyArgument_eq`: the recursion of the classification ends at the matched type.
* `CType.handsOver_directArgument`, `CType.isConst_directArgument`: what holds there.
* `argument_const_correct`: every classification of a parameter type is const-correct.
-/

namespace HeaderMock

namespace CType

variable {t target : CType} {c : Classification} {underlying : Bool}

/-! ## The matched type -/

/-- The type by which a parameter is matched: a moved-from scalar is matched as what it refers to,
any other type as itself. -/
def matched : CType → CType
  | ⟨kind, spelling, isConst, canonical?, some pointee, named?, element?, isVariadic⟩ =>
    let t : CType :=
      ⟨kind, spelling, isConst, canonical?, some pointee, named?, element?, isVariadic⟩
    if t.isMovedScalar then pointee.matched else t
  | t => t

theorem matched_of_not_isMovedScalar (h : ¬t.isMovedScalar = true) : t.matched = t := by
  fun_cases matched t with
  | case1 _ _ _ _ _ _ _ _ _ hmoved => exact absurd hmoved h
  | case2 => rfl
  | case3 => rfl

theorem isSome_pointee?_of_isMovedScalar (h : t.isMovedScalar = true) : t.pointee?.isSome := by
  cases hp : t.pointee? with
  | some p => rfl
  | none => simp [isMovedScalar, pointee, hp, invalid, canonical, TypeKind.isScalarOrEnum,
      TypeKind.scalar?] at h

/-- What the classification of the matched type becomes for the type as it is written. -/
def relabel (t : CType) (c : Classification) : Classification :=
  if t.isMovedScalar then { c with rendered := t.spelling, reference := .rvalue } else c

theorem exists_relabel_eq (t : CType) (c : Classification) :
    ∃ rendered reference, t.relabel c = { c with rendered, reference } := by
  unfold relabel
  split
  · exact ⟨_, _, rfl⟩
  · exact ⟨c.rendered, c.reference, rfl⟩

/-- The recursion of the classification ends at the matched type, and its way there shows only in
what says how the parameter is written. -/
theorem classifyArgument_eq (t : CType) (underlying : Bool) :
    t.classifyArgument underlying = (t.matched.directArgument underlying).map t.relabel := by
  have unlabelled {t : CType} (h : ¬t.isMovedScalar = true)
      (x : Except TypeFault Classification) : x = x.map t.relabel := by
    cases x <;> simp [relabel, h]
  fun_induction classifyArgument underlying t with
  | case1 kind spelling isConst canonical? pointee named? element? isVariadic t hmoved ih =>
    rw [matched, if_pos hmoved, ih]
    cases pointee.matched.directArgument underlying with
    | error e => rfl
    | ok c =>
      -- The outermost reference says how the parameter is written.
      by_cases h : pointee.isMovedScalar = true <;>
        simp [relabel, h, show t.isMovedScalar = true from hmoved, t]
  | case2 kind spelling isConst canonical? pointee named? element? isVariadic t hmoved =>
    rw [matched, if_neg hmoved]
    exact unlabelled hmoved _
  | case3 t hpointee =>
    have hmoved : ¬t.isMovedScalar = true := by
      intro h
      obtain ⟨p, hp⟩ := Option.isSome_iff_exists.mp (isSome_pointee?_of_isMovedScalar h)
      obtain ⟨kind, spelling, isConst, canonical?, pointee?, named?, element?, isVariadic⟩ := t
      obtain rfl : pointee? = some p := hp
      exact hpointee _ _ _ _ _ _ _ _ rfl
    rw [matched_of_not_isMovedScalar hmoved]
    exact unlabelled hmoved _

/-! ## Forms of classifications -/

/-- The kind by which the type is classified: that behind a typedef, or that of the type itself
without sugar. -/
def shownKind (t : CType) : TypeKind := if t.isTypedef then t.canonical.kind else t.desugar.kind

/-- What the type refers to is constant. A typedef is asked for what is behind it, where all of an
array is constant if the typedef is. -/
def targetIsConst (t : CType) : Bool :=
  if t.isTypedef then
    if t.canonical.kind.isArray then t.isConst || t.canonical.element?.any (·.isConst)
    else t.canonical.pointee.isConst
  else if t.desugar.kind.isArray then t.element?.any (·.isConstAnywhere)
  else t.pointee.isConstAnywhere

/-- The forms that the classification of a parameter type can take: three for what is handed over by
value, and four for what refers to a target. -/
inductive HandsOver (t : CType) (c : Classification) : Prop where
  | scalar (kind : ValueKind) (narrow : Bool) (entry : t.shownKind.scalar? = some (kind, narrow))
      (hkind : c.kind = .value kind) (hcast : c.castRequired = false)
      (hvalue : c.pointerLike = false) (hsized : c.sized = false)
  | enumerator (henum : t.shownKind = .enumeration) (hkind : c.kind = .value .int)
      (hcast : c.castRequired = true) (htype : c.castType = some "int")
      (hvalue : c.pointerLike = false) (hsized : c.sized = false)
  | object (hrecord : t.isRecord = true) (hkind : c.kind = .inputOfType)
      (haddress : c.byAddress = true) (hvalue : c.pointerLike = false) (hsized : c.sized = false)
  | input
      (hkind : c.kind = .value .string ∨ c.kind = .value .constPointer ∨ c.kind = .inputOfType)
      (hconst : c.isConst = true) (hpointer : c.pointerLike = true) (hsized : c.sized = false)
  | access (hkind : c.kind = .value .pointer ∨ c.kind = .outputOfType)
      (hconst : c.isConst = false) (hpointer : c.pointerLike = true) (hsized : c.sized = false)
  | output (hindirect : t.desugar.kind = .pointer ∨ t.desugar.kind.isReference = true)
      (hkind : c.kind = .output) (hconst : c.isConst = false) (hpointer : c.pointerLike = true)
      (hsized : c.sized = false)
      (htype : c.valueType = Spelling.constPointerTo t.pointee.spelling)
  | buffer (hkind : c.kind = .output) (hconst : c.isConst = false) (hpointer : c.pointerLike = true)
      (hsized : c.sized = true) (htype : c.valueType = ValueKind.constPointer.nativeType)

namespace HandsOver

/-- How the parameter is written does not matter. -/
theorem rewritten (h : t.HandsOver c) (rendered : String) (reference : Reference) :
    t.HandsOver { c with rendered, reference } := by
  cases h with
  | scalar kind narrow entry hkind hcast hvalue hsized =>
    exact .scalar kind narrow entry hkind hcast hvalue hsized
  | enumerator henum hkind hcast htype hvalue hsized =>
    exact .enumerator henum hkind hcast htype hvalue hsized
  | object hrecord hkind haddress hvalue hsized =>
    exact .object hrecord hkind haddress hvalue hsized
  | input hkind hconst hpointer hsized => exact .input hkind hconst hpointer hsized
  | access hkind hconst hpointer hsized => exact .access hkind hconst hpointer hsized
  | output hindirect hkind hconst hpointer hsized htype =>
    exact .output hindirect hkind hconst hpointer hsized htype
  | buffer hkind hconst hpointer hsized htype => exact .buffer hkind hconst hpointer hsized htype

theorem kind_of_isConst (h : t.HandsOver c) (hpointer : c.pointerLike = true)
    (hconst : c.isConst = true) :
    c.kind ∈ [.value .string, .value .constPointer, .inputOfType] := by
  cases h <;> simp_all

theorem kind_of_not_isConst (h : t.HandsOver c) (hpointer : c.pointerLike = true)
    (hconst : c.isConst = false) : c.kind ∈ [.value .pointer, .output, .outputOfType] := by
  cases h <;> grind

theorem of_sized (h : t.HandsOver c) (hsized : c.sized = true) :
    c.kind = .output ∧ c.valueType = ValueKind.constPointer.nativeType := by
  cases h <;> simp_all

theorem of_output (h : t.HandsOver c) (hkind : c.kind = .output) (hsized : c.sized = false) :
    (t.desugar.kind = .pointer ∨ t.desugar.kind.isReference = true) ∧
      c.valueType = Spelling.constPointerTo t.pointee.spelling := by
  cases h <;> simp_all

theorem by_value (h : t.HandsOver c) (hvalue : c.pointerLike = false) :
    (∃ kind narrow, t.shownKind.scalar? = some (kind, narrow) ∧ c.kind = .value kind ∧
        c.castRequired = false) ∨
      (t.shownKind = .enumeration ∧ c.kind = .value .int ∧ c.castRequired = true ∧
        c.castType = some "int") ∨
      t.isRecord = true ∧ c.kind = .inputOfType ∧ c.byAddress = true := by
  cases h with
  | scalar kind narrow entry hkind hcast => exact .inl ⟨kind, narrow, entry, hkind, hcast⟩
  | enumerator henum hkind hcast htype => exact .inr (.inl ⟨henum, hkind, hcast, htype⟩)
  | object hrecord hkind haddress => exact .inr (.inr ⟨hrecord, hkind, haddress⟩)
  | _ => simp_all

end HandsOver

theorem handsOver_of_pointerTo {isConst : Bool} (hkind : c.kind = .value (.pointerTo isConst))
    (hconst : c.isConst = isConst) (hpointer : c.pointerLike = true) (hsized : c.sized = false) :
    t.HandsOver c := by
  cases isConst with
  | true => exact .input (.inr (.inl hkind)) hconst hpointer hsized
  | false => exact .access (.inl hkind) hconst hpointer hsized

/-- A pointer or reference by its target. -/
theorem handsOver_targetArgument {rendered : String} {byReference : Bool}
    (hindirect : t.desugar.kind = .pointer ∨ t.desugar.kind.isReference = true)
    (h : t.pointee.targetArgument rendered byReference underlying = .ok c) : t.HandsOver c := by
  unfold targetArgument at h
  dsimp only at h
  generalize (if byReference = true then t.pointee.spelling ++ " *" else rendered) = type at h
  split at h
  · cases h
    exact handsOver_of_pointerTo rfl rfl rfl rfl
  split at h
  · cases h
    cases hconst : t.pointee.isConstAnywhere with
    | true => exact .input (.inr (.inr rfl)) rfl rfl rfl
    | false => exact .access (.inr rfl) rfl rfl rfl
  split_ifs at h with hkind hstring hconst hbyte
  · cases h
    exact .input (.inl rfl) hstring.1 rfl rfl
  · cases h
    exact .input (.inr (.inl rfl)) hconst rfl rfl
  · cases h
    exact .buffer rfl (by simpa using hconst) rfl rfl rfl
  · cases h
    exact .output hindirect rfl (by simpa using hconst) rfl rfl rfl

theorem handsOver_decayedArray (s : CType) {isConst : Bool} (arrayDecayed : Bool)
    {valueType : String} (h : isConst = false → valueType = ValueKind.constPointer.nativeType) :
    t.HandsOver (s.decayedArray isConst arrayDecayed valueType) := by
  cases isConst with
  | true => exact .input (.inr (.inl rfl)) rfl rfl rfl
  | false => exact .buffer rfl rfl rfl rfl (h rfl)

theorem handsOver_typedefArgument (htypedef : t.isTypedef = true)
    (h : t.typedefArgument underlying = .ok c) : t.HandsOver c := by
  have hshown : t.shownKind = t.canonical.kind := if_pos htypedef
  unfold typedefArgument at h
  dsimp only at h
  split at h
  · next kind narrow entry =>
    cases h
    exact .scalar kind narrow (hshown ▸ entry) rfl rfl rfl rfl
  split_ifs at h with henum hrecord hpointer hfunction hreference harray
  · cases h
    exact .enumerator (hshown ▸ henum) rfl rfl rfl rfl rfl
  · cases h
    exact .object (by simp [isRecord, hrecord]) rfl rfl rfl rfl
  · cases h
    by_cases hstring : t.canonical.pointee.kind.isCharacter && t.canonical.pointee.isConst
    · refine .input (.inl ?_) ?_ rfl rfl
      · simp [scalarArgument, hiddenPointer, hstring]
      · simpa using (Bool.and_eq_true_iff.mp hstring).2
    · refine handsOver_of_pointerTo ?_ (show _ = t.canonical.pointee.isConst from rfl) rfl rfl
      simp [scalarArgument, hiddenPointer, hstring]
  · cases h
    exact handsOver_of_pointerTo rfl rfl rfl rfl
  · obtain ⟨isConst, -, rfl⟩ := map_eq_ok_iff.mp h
    exact handsOver_decayedArray t false fun _ => rfl

theorem handsOver_directArgument (h : t.directArgument underlying = .ok c) : t.HandsOver c := by
  unfold directArgument at h
  dsimp only at h
  split at h
  · next htypedef => exact handsOver_typedefArgument htypedef h
  next htypedef =>
  have hshown : t.shownKind = t.desugar.kind := if_neg htypedef
  split at h
  · next kind narrow entry =>
    cases h
    exact .scalar kind narrow (hshown ▸ entry) rfl rfl rfl rfl
  split_ifs at h with henum hpointer hreference harray hrecord
  · cases h
    exact .enumerator (hshown ▸ henum) rfl rfl rfl rfl rfl
  · exact handsOver_targetArgument (.inl hpointer) h
  · obtain ⟨result, hresult, rfl⟩ := map_eq_ok_iff.mp h
    exact (handsOver_targetArgument (.inr hreference) hresult).rewritten _ _
  · obtain ⟨element, -, rfl⟩ := map_eq_ok_iff.mp h
    exact handsOver_decayedArray t true fun hconst => by simp [hconst]
  · cases h
    exact .object hrecord rfl rfl rfl rfl

/-! ## Constant targets -/

theorem isConst_targetArgument {rendered : String} {byReference : Bool}
    (h : target.targetArgument rendered byReference underlying = .ok c) :
    c.isConst = target.isConstAnywhere := by
  unfold targetArgument at h
  dsimp only at h
  split_ifs at h <;> cases h <;> rfl

theorem hiddenArrayIsConst_eq_ok {isConst : Bool} (h : t.hiddenArrayIsConst = .ok isConst) :
    isConst = (t.isConst || t.canonical.element?.any (·.isConst)) := by
  unfold hiddenArrayIsConst at h
  split at h
  · next hconst =>
    cases h
    simp [hconst]
  · next hconst =>
    obtain ⟨element, helement, rfl⟩ := map_eq_ok_iff.mp h
    simp [hconst, element_eq_ok_iff.mp helement]

theorem isConst_typedefArgument (htypedef : t.isTypedef = true)
    (h : t.typedefArgument underlying = .ok c) (hpointer : c.pointerLike = true) :
    c.isConst = t.targetIsConst := by
  unfold typedefArgument at h
  dsimp only at h
  rw [targetIsConst, if_pos htypedef]
  split at h
  · cases h
    cases hpointer
  split_ifs at h with henum hrecord hkind hfunction hreference harray
  · cases h
    cases hpointer
  · cases h
    cases hpointer
  · cases h
    simp [hkind, TypeKind.isArray]
  · cases h
    simp [TypeKind.isArray_eq_false (.inr hreference)]
  · obtain ⟨isConst, hconst, rfl⟩ := map_eq_ok_iff.mp h
    rw [if_pos harray]
    exact hiddenArrayIsConst_eq_ok hconst

/-- What says of a parameter that its target is constant is the constness of the target, however the
type is written. -/
theorem isConst_directArgument (h : t.directArgument underlying = .ok c)
    (hpointer : c.pointerLike = true) : c.isConst = t.targetIsConst := by
  unfold directArgument at h
  dsimp only at h
  split at h
  · next htypedef => exact isConst_typedefArgument htypedef h hpointer
  next htypedef =>
  rw [targetIsConst, if_neg htypedef]
  split at h
  · cases h
    cases hpointer
  split_ifs at h with henum hkind hreference harray hrecord
  · cases h
    cases hpointer
  · simp [hkind, TypeKind.isArray, isConst_targetArgument h]
  · obtain ⟨result, hresult, rfl⟩ := map_eq_ok_iff.mp h
    simp [TypeKind.isArray_eq_false (.inr hreference), isConst_targetArgument hresult]
  · obtain ⟨element, helement, rfl⟩ := map_eq_ok_iff.mp h
    simp [harray, element_eq_ok_iff.mp helement, decayedArray]
  · cases h
    cases hpointer

end CType

/-- The classification of a parameter type is const-correct. What refers to a target says whether
the target is constant, and is an input if it is, and a pointer or an output if it is not. An output
of unknown size is taken as `const void *`, any other as a pointer to what the type refers to, as a
constant. All else is a scalar, an enumerator that is cast, or an object passed by address. -/
theorem argument_const_correct {t : CType} {underlying : Bool} {c : Classification}
    (h : t.classifyArgument underlying = .ok c) :
    (c.pointerLike = true → c.isConst = t.matched.targetIsConst ∧
        (c.isConst = true → c.kind ∈ [.value .string, .value .constPointer, .inputOfType]) ∧
        (c.isConst = false → c.kind ∈ [.value .pointer, .output, .outputOfType])) ∧
      (c.sized = true → c.kind = .output ∧ c.valueType = "const void *") ∧
      (c.kind = .output → c.sized = false →
        (t.matched.desugar.kind = .pointer ∨ t.matched.desugar.kind.isReference = true) ∧
          c.valueType = Spelling.constPointerTo t.matched.pointee.spelling) ∧
      (c.pointerLike = false →
        (∃ kind narrow, t.matched.shownKind.scalar? = some (kind, narrow) ∧ c.kind = .value kind ∧
            c.castRequired = false) ∨
          (t.matched.shownKind = .enumeration ∧ c.kind = .value .int ∧ c.castRequired = true ∧
            c.castType = some "int") ∨
          t.matched.isRecord = true ∧ c.kind = .inputOfType ∧ c.byAddress = true) := by
  rw [CType.classifyArgument_eq, map_eq_ok_iff] at h
  obtain ⟨d, hd, rfl⟩ := h
  obtain ⟨rendered, reference, hlabel⟩ := t.exists_relabel_eq d
  rw [hlabel]
  have hform := (CType.handsOver_directArgument hd).rewritten rendered reference
  have hconst : d.pointerLike = true → d.isConst = t.matched.targetIsConst :=
    CType.isConst_directArgument hd
  exact ⟨fun hpointer => ⟨hconst hpointer, hform.kind_of_isConst hpointer,
    hform.kind_of_not_isConst hpointer⟩, hform.of_sized, hform.of_output, hform.by_value⟩

/-- `int *&` -/
def CType.pointerReference : CType where
  kind := .lvalueReference
  spelling := "int *&"
  pointee? := some
    { kind := .pointer, spelling := "int *", pointee? := some { kind := .int, spelling := "int" } }

/-- `Row` behind `typedef const int Row[4]` -/
def CType.constRow : CType where
  kind := .typedef
  spelling := "Row"
  canonical? := some
    { kind := .constantArray, spelling := "const int[4]"
      element? := some { kind := .int, spelling := "const int", isConst := true } }

/-- A reference to a pointer is an output, and an array of constants behind a typedef an input. -/
theorem argument_const_correct_indirect :
    (∃ c, CType.pointerReference.classifyArgument false = .ok c ∧ c.pointerLike = true ∧
        CType.pointerReference.targetIsConst = false ∧ c.kind = .output ∧ c.sized = false ∧
        c.kind ∈ [.value .pointer, .output, .outputOfType] ∧ c.valueType = "int *const*") ∧
      ∃ c, CType.constRow.classifyArgument false = .ok c ∧ c.pointerLike = true ∧
        CType.constRow.targetIsConst = true ∧
        c.kind ∈ [.value .string, .value .constPointer, .inputOfType] := by
  constructor
  · obtain ⟨c, hc, hpointer, hkind, hsized⟩ :
        ∃ c, CType.pointerReference.classifyArgument false = .ok c ∧ c.pointerLike = true ∧
          c.kind = .output ∧ c.sized = false := ⟨_, rfl, rfl, rfl, rfl⟩
    obtain ⟨htarget, -, hopen⟩ := (argument_const_correct hc).1 hpointer
    obtain ⟨-, htype⟩ := (argument_const_correct hc).2.2.1 hkind hsized
    exact ⟨c, hc, hpointer, rfl, hkind, hsized, hopen htarget, htype⟩
  · obtain ⟨c, hc, hpointer⟩ :
        ∃ c, CType.constRow.classifyArgument false = .ok c ∧ c.pointerLike = true := ⟨_, rfl, rfl⟩
    obtain ⟨htarget, hconst, -⟩ := (argument_const_correct hc).1 hpointer
    exact ⟨c, hc, hpointer, rfl, hconst htarget⟩

end HeaderMock

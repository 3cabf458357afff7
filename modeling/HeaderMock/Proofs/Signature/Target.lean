import HeaderMock.Proofs.Signature.Collected
import HeaderMock.Proofs.Slot.Elements

/-!
# Targets of classified parameters

A parameter type is classified by one walk over the type, and its target is found by another. They
remove sugar and typedefs in a different order and ask different types for their target. Still they
agree on what refers to a target: there is one exactly if the classification says that the parameter
is a pointer, a reference or an array, where a moved-from scalar is known by its reference only.

## Main definitions

* `CType.ShowsKind`, `CType.KnowsElement`: what a parser reports of the types of parameters.
* `Classification.Tells`: what a classification says about a type of some kind.

## Main statements

* `CType.tells_directArgument`, `CType.indirect_iff_of_classifyArgument`: what a classification says
  about its type.
* `CType.exists_target?`: which types have a target.
* `target_agrees_with_classification`: the two agree, also in what is collected for a parameter.
-/

namespace HeaderMock

namespace TypeKind

variable {k : TypeKind}

/-- Scalars, enumerators and records refer to nothing. -/
theorem isIndirect_of_value (h : k.isScalarOrEnum = true ∨ k = .record) : k.isIndirect = false := by
  cases k <;> simp_all [isScalarOrEnum, scalar?, isIndirect, isReference, reference, isArray]

theorem isIndirect_of_scalar? {entry : ValueKind × Bool} (h : k.scalar? = some entry) :
    k.isIndirect = false :=
  isIndirect_of_value (.inl (by simp [isScalarOrEnum, h]))

theorem reference_of_not_isReference (h : ¬k.isReference = true) : k.reference = .none := by
  simpa [isReference] using h

theorem reference_of_not_isIndirect (h : k.isIndirect = false) : k.reference = .none := by
  apply reference_of_not_isReference
  intro hreference
  simp [isIndirect_iff.mpr (.inr (.inl hreference))] at h

end TypeKind

/-- The classification says of a type of this kind whether it refers to a target, and by which
reference. -/
structure Classification.Tells (c : Classification) (k : TypeKind) : Prop where
  pointerLike : c.pointerLike = k.isIndirect
  reference : c.reference = k.reference

namespace Classification.Tells

variable {c : Classification} {k : TypeKind}

theorem of_direct (hk : k.isIndirect = false) (hpointer : c.pointerLike = false)
    (hreference : c.reference = .none) : c.Tells k :=
  ⟨hpointer.trans hk.symm, hreference.trans (TypeKind.reference_of_not_isIndirect hk).symm⟩

theorem of_indirect (hk : k.isIndirect = true) (hpointer : c.pointerLike = true)
    (hreference : c.reference = k.reference) : c.Tells k :=
  ⟨hpointer.trans hk.symm, hreference⟩

theorem indirect_iff (h : c.Tells k) :
    c.pointerLike = true ∨ c.reference = .rvalue ↔ k.isIndirect = true := by
  rw [h.pointerLike, h.reference, or_iff_left_iff_imp]
  intro hreference
  exact TypeKind.isIndirect_iff.mpr (.inr (.inl (by simp [TypeKind.isReference, hreference])))

end Classification.Tells

namespace CType

variable {t : CType} {c : Classification} {underlying : Bool}

/-- The type, sugar apart, is a typedef or of the kind that it has behind its typedefs. A record may
be shown without its kind. -/
def ShowsKind (t : CType) : Prop :=
  t.isTypedef = true ∨ t.desugar.kind = t.canonical.kind ∨
    t.desugar.kind = .unexposed ∧ t.canonical.kind = .record

/-- Where the type is an array, as written or behind its typedefs, it has an element type. -/
structure KnowsElement (t : CType) : Prop where
  written : t.desugar.kind.isArray = true → t.desugar.element?.isSome = true
  hidden : t.canonical.kind.isArray = true → t.canonical.element?.isSome = true

/-! ## Classifications -/

theorem indirect_targetArgument {target : CType} {rendered : String} {byReference : Bool}
    (h : target.targetArgument rendered byReference underlying = .ok c) :
    c.pointerLike = true ∧ c.reference = .none := by
  unfold targetArgument at h
  dsimp only at h
  split_ifs at h <;> cases h <;> exact ⟨rfl, rfl⟩

theorem tells_typedefArgument (h : t.typedefArgument underlying = .ok c) :
    c.Tells t.canonical.kind := by
  unfold typedefArgument at h
  dsimp only at h
  split at h
  · next entry =>
    cases h
    exact .of_direct (TypeKind.isIndirect_of_scalar? entry) rfl rfl
  split_ifs at h with henum hrecord hpointer hfunction hreference harray
  · cases h
    exact .of_direct (by rw [henum]; rfl) rfl rfl
  · cases h
    exact .of_direct (by rw [hrecord]; rfl) rfl rfl
  · cases h
    refine .of_indirect (TypeKind.isIndirect_iff.mpr (.inl hpointer)) rfl ?_
    rw [hpointer]
    rfl
  · cases h
    exact .of_indirect (TypeKind.isIndirect_iff.mpr (.inr (.inl hreference))) rfl rfl
  · obtain ⟨isConst, -, rfl⟩ := map_eq_ok_iff.mp h
    refine .of_indirect (TypeKind.isIndirect_iff.mpr (.inr (.inr harray))) rfl ?_
    exact (TypeKind.reference_of_not_isReference hreference).symm

/-- A type that is not a moved-from scalar is classified by the kind that it shows. -/
theorem tells_directArgument (h : t.directArgument underlying = .ok c) : c.Tells t.shownKind := by
  unfold directArgument at h
  dsimp only at h
  split at h
  · next htypedef =>
    rw [shownKind, if_pos htypedef]
    exact tells_typedefArgument h
  next htypedef =>
  rw [shownKind, if_neg htypedef]
  split at h
  · next entry =>
    cases h
    exact .of_direct (TypeKind.isIndirect_of_scalar? entry) rfl rfl
  split_ifs at h with henum hpointer hreference harray hrecord
  · cases h
    exact .of_direct (by rw [henum]; rfl) rfl rfl
  · obtain ⟨hindirect, hnone⟩ := indirect_targetArgument h
    refine .of_indirect (TypeKind.isIndirect_iff.mpr (.inl hpointer)) hindirect ?_
    rw [hpointer]
    exact hnone
  · obtain ⟨result, hresult, rfl⟩ := map_eq_ok_iff.mp h
    exact .of_indirect (TypeKind.isIndirect_iff.mpr (.inr (.inl hreference)))
      (indirect_targetArgument hresult).1 rfl
  · obtain ⟨element, -, rfl⟩ := map_eq_ok_iff.mp h
    refine .of_indirect (TypeKind.isIndirect_iff.mpr (.inr (.inr harray))) rfl ?_
    exact (TypeKind.reference_of_not_isReference hreference).symm
  · cases h
    refine .of_direct ?_ rfl rfl
    rw [← Bool.not_eq_true, TypeKind.isIndirect_iff]
    rintro (h | h | h)
    · exact hpointer h
    · exact hreference h
    · exact harray h

/-- What a classification says about indirection. A moved-from scalar, which is classified as its
target, is known by its reference. -/
theorem indirect_iff_of_classifyArgument (h : t.classifyArgument underlying = .ok c) :
    c.pointerLike = true ∨ c.reference = .rvalue ↔ t.shownKind.isIndirect = true := by
  rw [classifyArgument_eq, map_eq_ok_iff] at h
  obtain ⟨d, hd, rfl⟩ := h
  by_cases hmoved : t.isMovedScalar = true
  · -- Whether `d` is that of a pointer says nothing here: it is the classification of the target.
    have hreference : (t.relabel d).reference = .rvalue := by simp [relabel, hmoved]
    have hkind : t.shownKind = .rvalueReference := by
      simp only [isMovedScalar, Bool.and_eq_true, Bool.not_eq_true', beq_iff_eq] at hmoved
      simp [shownKind, hmoved.1]
    refine iff_of_true (.inr hreference) ?_
    rw [hkind]
    rfl
  · rw [matched_of_not_isMovedScalar hmoved] at hd
    rw [relabel, if_neg hmoved]
    exact (tells_directArgument hd).indirect_iff

/-! ## Targets -/

namespace ShowsKind

/-- As far as targets go, nothing but a typedef stands between the type and what is behind it. -/
theorem isIndirect_shownKind (h : t.ShowsKind) :
    t.shownKind.isIndirect = t.canonical.kind.isIndirect := by
  unfold shownKind
  split
  · rfl
  · next htypedef =>
    rcases h with h | h | ⟨hdesugar, hcanonical⟩
    · exact absurd h htypedef
    · rw [h]
    · rw [hdesugar, hcanonical]
      rfl

theorem isIndirect_of_desugar (h : t.ShowsKind) (hdesugar : t.desugar.kind.isIndirect = true) :
    t.canonical.kind.isIndirect = true := by
  have htypedef : ¬t.isTypedef = true := by
    intro htypedef
    rw [beq_iff_eq.mp htypedef] at hdesugar
    cases hdesugar
  rw [← h.isIndirect_shownKind, shownKind, if_neg htypedef]
  exact hdesugar

end ShowsKind

theorem exists_target? (hkind : t.ShowsKind) (helement : t.KnowsElement) :
    ∃ target?, t.target? = .ok target? ∧ target?.isSome = t.canonical.kind.isIndirect := by
  obtain ⟨direct, hdirect, hsome⟩ := exists_directTarget? helement.written
  obtain ⟨hidden, hhidden, hsome'⟩ := exists_directTarget? helement.hidden
  unfold target?
  rw [hdirect]
  -- The written type comes first; what is behind it is asked only if that refers to nothing.
  cases direct with
  | some target => exact ⟨some target, rfl, (hkind.isIndirect_of_desugar hsome.symm).symm⟩
  | none => exact ⟨hidden, hhidden, hsome'⟩

end CType

/-- The target of a parameter type is there exactly if the classification says that the type is a
pointer, a reference or an array, or is known by an rvalue reference. So scalars, enumerators and
records that are passed by value have none, pointers, references and arrays have one, also behind a
typedef, and what is collected for a parameter has the spelling of this target. -/
theorem target_agrees_with_classification {t : CType} {underlying : Bool} {c : Classification}
    (hkind : t.ShowsKind) (helement : t.KnowsElement) (h : t.classifyArgument underlying = .ok c) :
    ∃ target?, t.target? = .ok target? ∧
      (target?.isSome = true ↔ c.pointerLike = true ∨ c.reference = .rvalue) ∧
      (t.canonical.kind.isScalarOrEnum = true ∨ t.canonical.kind = .record → target? = none) ∧
      (t.canonical.kind = .pointer ∨ t.canonical.kind.isReference = true ∨
        t.canonical.kind.isArray = true → target?.isSome = true) ∧
      ∀ (s : Site) (cfg : Config) (sig : Signature) (i : Nat) (arg : Argument) (p : Parameter),
        (s.signature cfg).result = .ok sig → s.info.args[i]? = some arg → arg.type = t →
          sig.parameters[i]? = some p → p.targetSpelling = target?.map (·.spelling) := by
  obtain ⟨target?, htarget, hsome⟩ := CType.exists_target? hkind helement
  refine ⟨target?, htarget, ?_, ?_, ?_, ?_⟩
  · rw [CType.indirect_iff_of_classifyArgument h, hkind.isIndirect_shownKind, hsome]
  · intro hvalue
    rw [TypeKind.isIndirect_of_value hvalue] at hsome
    simpa using hsome
  · intro hindirect
    rw [hsome, TypeKind.isIndirect_iff]
    exact hindirect
  · rintro s cfg sig i arg p hsig harg rfl hp
    obtain ⟨p', hp', hparameter⟩ := (Site.collects_of_signature hsig).getElem?_parameters harg
    obtain rfl : p = p' := Option.some.inj (hp.symm.trans hp')
    have hspelling := (Argument.collects_of_parameter hparameter).target
    rw [htarget] at hspelling
    exact (Except.ok.inj hspelling).symm

/-- `Handle` behind `typedef int *Handle` -/
def CType.handle : CType where
  kind := .elaborated
  spelling := "Handle"
  named? := some { kind := .typedef, spelling := "Handle" }
  canonical? := some
    { kind := .pointer, spelling := "int *", pointee? := some { kind := .int, spelling := "int" } }

/-- `int &&` -/
def CType.movedInt : CType where
  kind := .rvalueReference
  spelling := "int &&"
  pointee? := some { kind := .int, spelling := "int" }

/-- `void g(Handle handle, int &&count)` -/
def Site.taker : Site where
  routine := .function
  info :=
    { kind := .routine .function, spelling := "g", file := some "c.hpp"
      result := { kind := .void, spelling := "void" }
      args :=
        [{ spelling := "handle", type := .handle }, { spelling := "count", type := .movedInt }] }
  enclosing := [.wholeUnit]

/-- A pointer behind a typedef has a target, and so has a moved-from scalar, which is not classified
as a pointer. -/
theorem target_agrees_with_classification_taker :
    ∃ c c' sig p p', CType.handle.classifyArgument false = .ok c ∧ c.pointerLike = true ∧
      CType.movedInt.classifyArgument false = .ok c' ∧ c'.pointerLike = false ∧
      c'.reference = .rvalue ∧ (Site.taker.signature {}).result = .ok sig ∧
      sig.parameters = [p, p'] ∧ p.targetSpelling.isSome = true ∧
      p'.targetSpelling.isSome = true := by
  obtain ⟨c, hc, hpointer⟩ :
      ∃ c, CType.handle.classifyArgument false = .ok c ∧ c.pointerLike = true := ⟨_, rfl, rfl⟩
  obtain ⟨c', hc', hvalue, hreference⟩ : ∃ c', CType.movedInt.classifyArgument false = .ok c' ∧
      c'.pointerLike = false ∧ c'.reference = .rvalue := ⟨_, rfl, rfl, rfl⟩
  obtain ⟨sig, p, p', hsig, hparameters⟩ : ∃ sig p p',
      (Site.taker.signature {}).result = .ok sig ∧ sig.parameters = [p, p'] := ⟨_, _, _, rfl, rfl⟩
  obtain ⟨target?, -, hiff, -, -, hcollected⟩ :=
    target_agrees_with_classification (t := .handle) (.inl rfl) ⟨nofun, nofun⟩ hc
  obtain ⟨target'?, -, hiff', -, -, hcollected'⟩ :=
    target_agrees_with_classification (t := .movedInt) (.inr (.inl rfl)) ⟨nofun, nofun⟩ hc'
  refine ⟨c, c', sig, p, p', hc, hpointer, hc', hvalue, hreference, hsig, hparameters, ?_, ?_⟩
  · rw [hcollected _ _ _ 0 ⟨"handle", .handle⟩ p hsig rfl rfl (by rw [hparameters]; rfl),
      Option.isSome_map]
    exact hiff.mpr (.inl hpointer)
  · rw [hcollected' _ _ _ 1 ⟨"count", .movedInt⟩ p' hsig rfl rfl (by rw [hparameters]; rfl),
      Option.isSome_map]
    exact hiff'.mpr (.inr hreference)

end HeaderMock

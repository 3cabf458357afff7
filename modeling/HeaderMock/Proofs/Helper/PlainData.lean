import HeaderMock.Proofs.Rendering.Parts
import HeaderMock.Proofs.Text.Split

/-!
# Helpers for plain data

A parameter that is overridden as plain data refers to a target, and its helper takes a pointer to
this target as a constant. The constness of the target itself is dropped from its spelling first,
and it is taken for a `const` in front. Where the target is a pointer this is the constness of what
the pointer refers to, which is then lost.

## Main definitions

* `CType.RefersTo`: the type that a pointer, a reference or an array refers to.
* `Override.IsPlainData`: overrides that hand over the target of their parameter.

## Main statements

* `CType.target?_eq_some_iff`: what is found as the target of a type.
* `Spelling.constPointerTo_withoutConst`: pointers to a constant whose own `const` is dropped.
* `plain_data_formal_iff`: the formal of a parameter that is handed over as plain data.
* `inner_const_lost`: a target whose inner `const` is lost.
-/

namespace HeaderMock

/-! ## Targets -/

namespace CType

variable {t target : CType}

/-- The type is a pointer or a reference to `target`, or an array of it. -/
inductive IndirectTo (t : CType) : CType → Prop where
  | pointee (h : t.kind = .pointer ∨ t.kind.isReference = true) : IndirectTo t t.pointee
  | element {element : CType} (h : t.kind.isArray = true) (he : t.element? = some element) :
      IndirectTo t element

/-- The type refers to `target`: as it is written, sugar apart, or else behind its typedefs. -/
def RefersTo (t target : CType) : Prop :=
  t.desugar.IndirectTo target ∨
    ¬(t.desugar.kind = .pointer ∨ t.desugar.kind.isReference = true ∨
      t.desugar.kind.isArray = true) ∧ t.canonical.IndirectTo target

theorem directTarget?_eq_some_iff : t.directTarget? = .ok (some target) ↔ t.IndirectTo target := by
  unfold directTarget?
  split
  · next hpointer =>
    constructor
    · rintro ⟨⟩
      exact .pointee hpointer
    · intro h
      cases h with
      | pointee => rfl
      | element harray => simp [TypeKind.isArray_eq_false hpointer] at harray
  next hpointer =>
  split
  · next harray =>
    simp only [map_eq_ok_iff, element_eq_ok_iff, Option.some.injEq, exists_eq_right]
    constructor
    · exact .element harray
    · intro h
      cases h with
      | pointee hpointer' => exact absurd hpointer' hpointer
      | element _ he => exact he
  · next harray =>
    constructor
    · rintro ⟨⟩
    · intro h
      cases h with
      | pointee hpointer' => exact absurd hpointer' hpointer
      | element harray' => exact absurd harray' harray

theorem directTarget?_eq_none_iff : t.directTarget? = .ok none ↔
    ¬(t.kind = .pointer ∨ t.kind.isReference = true ∨ t.kind.isArray = true) := by
  unfold directTarget?
  split
  · next hpointer => simp [or_assoc.symm, hpointer]
  split
  · next harray => simp [harray]
  · next hpointer harray => simpa [or_assoc.symm, harray] using hpointer

theorem target?_eq_some_iff : t.target? = .ok (some target) ↔ t.RefersTo target := by
  rw [target?, bind_eq_ok_iff, RefersTo, ← directTarget?_eq_none_iff, ← directTarget?_eq_some_iff,
    ← directTarget?_eq_some_iff]
  constructor
  · rintro ⟨direct, hdirect, h⟩
    cases direct with
    | some _ => exact .inl (hdirect.trans h)
    | none => exact .inr ⟨hdirect, h⟩
  · rintro (h | ⟨hnone, h⟩)
    · exact ⟨some target, h, rfl⟩
    · exact ⟨none, hnone, h⟩

end CType

/-! ## Spellings -/

namespace Spelling

open Text

@[simp] theorem withoutConst_eq_self_iff {s : String} :
    withoutConst s = s ↔ startsWith s "const " = false := by
  unfold withoutConst
  rcases withoutStart_cases s "const " with ⟨rest, rfl, hstart, hrest⟩ | ⟨hstart, hself⟩
  · have hne : rest ≠ "const " ++ rest := by
      intro h
      simpa using congrArg String.length h
    simp [hstart, hrest, hne]
  · simp [hstart, hself]

/-- A `const` in front does not reach the end of a spelling with a pointer sign there. -/
@[simp, grind =] theorem endsWithChar_withoutConst (s : String) :
    endsWithChar (withoutConst s) '*' = endsWithChar s '*' := by
  unfold withoutConst
  rcases withoutStart_cases s "const " with ⟨rest, rfl, -, hrest⟩ | ⟨-, hself⟩
  · rw [hrest, endsWithChar, endsWithChar, String.toList_append, List.getLast?_append]
    cases rest.toList.getLast? <;> rfl
  · rw [hself]

theorem constPointerTo_withoutConst (s : String) :
    constPointerTo (withoutConst s) =
      if endsWithChar s '*' then withoutConst s ++ "const*"
      else "const " ++ withoutConst s ++ "*" := by
  rw [constPointerTo, endsWithChar_withoutConst]

end Spelling

/-! ## Formals -/

/-- The override hands over the target of its parameter, whose type nothing else tells. -/
structure Override.IsPlainData (o : Override) : Prop where
  kind : o.kind = .inputPod ∨ o.kind = .outputPod
  expectType : o.expectType = none

/-- The slot of a parameter that is handed over as plain data has a single formal. -/
theorem Override.IsPlainData.exists_helperSlot {o : Override} (h : o.IsPlainData) (p : Parameter) :
    ∃ slot formal, o.helperSlot? p = some slot ∧ slot.formals = [formal] ∧ formal.name = p.name ∧
      formal.type =
        "CppUMockGen::Parameter<" ++ Spelling.constPointerTo p.pointedType ++ ">" := by
  obtain ⟨kind, expr, expectType⟩ := o
  obtain rfl : expectType = none := h.expectType
  obtain rfl | rfl : kind = .inputPod ∨ kind = .outputPod := h.kind
  · exact ⟨_, _, rfl, rfl, rfl, rfl⟩
  · exact ⟨_, _, rfl, rfl, rfl, rfl⟩

theorem Override.IsPlainData.not_isSkipped {o : Override} (h : o.IsPlainData) {p : Parameter}
    (ho : p.override = some o) : p.isSkipped = false := by
  rw [← Bool.not_eq_true, Parameter.isSkipped_of_override ho]
  rcases h.kind with hkind | hkind <;> simp [hkind]

theorem Argument.Collects.pointedType_eq {arg : Argument} {cfg : Config} {function : String}
    {index : Nat} {p : Parameter} {target : CType} (h : arg.Collects cfg function index p)
    (htarget : arg.type.RefersTo target) :
    p.pointedType = Spelling.withoutConst target.spelling := by
  have hspelling := h.target
  rw [CType.target?_eq_some_iff.mpr htarget] at hspelling
  simp [Parameter.pointedType, ← Except.ok.inj hspelling]

/-- The helpers of a collected signature take a parameter that is handed over as plain data as a
pointer to the constant target of its type. Where the target is spelled as a pointer, its spelling
is kept exactly if it has no `const` in front, and loses that `const` otherwise. Where it is spelled
without a pointer sign, only a `const` in front is dropped. -/
theorem plain_data_formal_iff {underlying : Bool} {parameterOptions typeOptions : List String}
    {cfg : Config} (hcfg : Config.build underlying parameterOptions typeOptions = .ok cfg)
    {s : Site} {sig : Signature} (hsig : (s.signature cfg).result = .ok sig) {i : Nat}
    {arg : Argument} {p : Parameter} {o : Override} {target : CType}
    (harg : s.info.args[i]? = some arg) (hp : sig.parameters[i]? = some p)
    (ho : p.override = some o) (hdata : o.IsPlainData) (htarget : arg.type.RefersTo target) :
    ∃ helpers slot formal, sig.helpers = .ok helpers ∧ p.helperSlot? = .ok (some slot) ∧
      slot ∈ helpers.slots ∧ slot.formals = [formal] ∧ formal.name = p.name ∧
      (Text.endsWithChar target.spelling '*' = true →
        (formal.type = "CppUMockGen::Parameter<" ++ (target.spelling ++ "const*") ++ ">" ↔
            Text.startsWith target.spelling "const " = false) ∧
          formal.type = "CppUMockGen::Parameter<" ++
            (Spelling.withoutConst target.spelling ++ "const*") ++ ">") ∧
      ('*' ∉ target.spelling.toList →
        formal.type = "CppUMockGen::Parameter<" ++
          ("const " ++ Spelling.withoutConst target.spelling ++ "*") ++ ">") := by
  have collects := Site.collects_of_signature hsig
  obtain ⟨p', hp', hparameter⟩ := collects.getElem?_parameters harg
  obtain rfl : p = p' := Option.some.inj (hp.symm.trans hp')
  have hcollected := Argument.collects_of_parameter hparameter
  obtain ⟨slot, formal, hslot, hformals, hname, htype⟩ := hdata.exists_helperSlot p
  rw [hcollected.pointedType_eq htarget, Spelling.constPointerTo_withoutConst] at htype
  have hskipped := hdata.not_isSkipped ho
  have hslot' : p.helperSlot? = .ok (some slot) := by
    simp [Parameter.helperSlot?, hskipped, ho, hslot]
  obtain ⟨helpers, hhelpers, hall⟩ := (collects.sound (Config.sound_of_build hcfg)).exists_helpers
  have hchecked : p ∈ sig.checked := by
    simp [Signature.checked, List.mem_of_getElem? hp, hskipped]
  obtain ⟨slot', hmem, heq⟩ := exists_of_mem_of_forall₂ hall.flip hchecked
  obtain rfl : slot = slot' := by simpa [hslot'] using heq
  refine ⟨helpers, slot, formal, hhelpers, hslot', hmem, hformals, hname, ?_, ?_⟩
  · intro hends
    rw [if_pos hends] at htype
    refine ⟨?_, htype⟩
    rw [htype, String.append_left_inj, String.append_right_inj, String.append_left_inj]
    exact Spelling.withoutConst_eq_self_iff
  · intro hsign
    have hends : ¬Text.endsWithChar target.spelling '*' = true := by
      intro hends
      exact hsign (List.mem_of_getLast? (by simpa [Text.endsWithChar] using hends))
    rwa [if_neg hends] at htype

/-- `void f(char **out)`, or with another type -/
def Site.taking (type : CType) : Site where
  routine := .function
  info :=
    { kind := .routine .function, spelling := "f", file := some "c.hpp"
      result := { kind := .void, spelling := "void" }
      args := [{ spelling := "out", type }] }
  enclosing := [.wholeUnit]

/-- `char **` -/
def CType.textPointer : CType where
  kind := .pointer
  spelling := "char **"
  pointee? := some
    { kind := .pointer, spelling := "char *"
      pointee? := some { kind := .plainSignedChar, spelling := "char" } }

/-- `const char **` -/
def CType.constTextPointer : CType where
  kind := .pointer
  spelling := "const char **"
  pointee? := some
    { kind := .pointer, spelling := "const char *"
      pointee? := some { kind := .plainSignedChar, spelling := "const char", isConst := true } }

/-- A pointer to a pointer is taken as a pointer to a constant pointer. -/
theorem plain_data_formal_iff_textPointer :
    ∃ cfg sig helpers slot formal,
      Config.build false ["f#out=OutputPOD"] [] = .ok cfg ∧
      ((Site.taking .textPointer).signature cfg).result = .ok sig ∧ sig.helpers = .ok helpers ∧
      slot ∈ helpers.slots ∧ slot.formals = [formal] ∧
      formal.type = "CppUMockGen::Parameter<char *const*>" := by
  obtain ⟨cfg, sig, p, o, hcfg, hsig, hp, ho, hdata⟩ : ∃ cfg sig p o,
      Config.build false ["f#out=OutputPOD"] [] = .ok cfg ∧
        ((Site.taking .textPointer).signature cfg).result = .ok sig ∧
        sig.parameters[0]? = some p ∧ p.override = some o ∧ o.IsPlainData :=
    ⟨_, _, _, _, rfl, rfl, rfl, rfl, .inr rfl, rfl⟩
  have harg : (Site.taking .textPointer).info.args[0]? = some ⟨"out", .textPointer⟩ := rfl
  obtain ⟨helpers, slot, formal, hhelpers, -, hslot, hformals, -, hpointer, -⟩ :=
    plain_data_formal_iff hcfg hsig harg hp ho hdata (.inl (.pointee (.inl rfl)))
  exact ⟨cfg, sig, helpers, slot, formal, hcfg, hsig, hhelpers, hslot, hformals,
    (hpointer (by decide)).1.mpr (by decide)⟩

/-- The inner `const` of a target is lost: the helper for `const char **out` takes a pointer to
`char *const` in place of `const char *const`. -/
theorem inner_const_lost :
    ∃ cfg sig helpers, Config.build false ["f#out=OutputPOD"] [] = .ok cfg ∧
      ((Site.taking .constTextPointer).signature cfg).result = .ok sig ∧
      sig.helpers = .ok helpers ∧
      CType.constTextPointer.RefersTo CType.constTextPointer.pointee ∧
      Text.endsWithChar CType.constTextPointer.pointee.spelling '*' = true ∧
      helpers.formals false = [⟨"CppUMockGen::Parameter<char *const*>", "out", none⟩] ∧
      "CppUMockGen::Parameter<char *const*>" ≠
        "CppUMockGen::Parameter<" ++ (CType.constTextPointer.pointee.spelling ++ "const*") ++
          ">" := by
  exact ⟨_, _, _, rfl, rfl, rfl, .inl (.pointee (.inl rfl)), by decide, rfl, by decide⟩

end HeaderMock

import HeaderMock.Proofs.Rendering.Agreement

/-!
# Mock and helpers agree on the answer

A helper hands the answer to a call over to the mock library, which holds it in one of its own
types, and the mock reads it back. What one side casts or passes by address the other side undoes,
and nothing is cast only where the declared type is the library's own.

## Main definitions

* `CType.IsNative`: the types that the mock library holds as they are.
* `Signature.answerKind?`: how the answer is held.
* `Statement.answer?`: the answer that a statement hands over.
* `Classification.Returns`: how a classified answer is handed over and read back.

## Main statements

* `CType.isNative_iff`: a result is cast exactly when its type is not native.
* `Classification.SuitsResult.returns`: both sides of a classified answer fit together.
* `answer_is_read_as_handed_over`: the answer of every collected signature.
-/

namespace HeaderMock

/-! ## Types that need no cast -/

/-- Elaborated sugar apart, the type is the one in which the mock library holds the value: a scalar
of this very kind, a pointer to `void`, or a pointer to constant plain characters. What a pointer
refers to is asked of the type as it is written. -/
def CType.IsNative (t : CType) : ValueKind → Prop
  | .bool => t.desugar.kind = .bool
  | .int => t.desugar.kind = .int
  | .unsignedInt => t.desugar.kind = .unsignedInt
  | .long => t.desugar.kind = .long
  | .unsignedLong => t.desugar.kind = .unsignedLong
  | .double => t.desugar.kind = .double
  | .string =>
    t.desugar.kind = .pointer ∧ t.pointee.desugar.kind.isCharacter = true ∧
      t.pointee.isConstAnywhere = true
  | .pointer =>
    t.desugar.kind = .pointer ∧ t.pointee.desugar.kind = .void ∧ t.pointee.isConstAnywhere = false
  | .constPointer =>
    t.desugar.kind = .pointer ∧ t.pointee.desugar.kind = .void ∧ t.pointee.isConstAnywhere = true

namespace CType

variable {t : CType} {c : Classification} {m : ValueKind}

theorem isNative_pointerTo {isConst : Bool} :
    t.IsNative (.pointerTo isConst) ↔ t.desugar.kind = .pointer ∧
      t.pointee.desugar.kind = .void ∧ t.pointee.isConstAnywhere = isConst := by
  cases isConst <;> rfl

theorem IsNative.not_isTypedef (h : t.IsNative m) : t.isTypedef = false := by
  cases m <;> simp_all [IsNative, isTypedef]

/-- A type that is neither a scalar nor a pointer is not native. -/
theorem not_isNative (hs : t.desugar.kind.scalar? = none) (hp : t.desugar.kind ≠ .pointer) :
    ¬t.IsNative m := by
  intro h
  cases m <;> simp_all [IsNative, TypeKind.scalar?]

/-- A scalar is native unless it is narrower than the value that holds it. -/
theorem isNative_iff_of_scalar {narrow : Bool} (h : t.desugar.kind.scalar? = some (m, narrow)) :
    t.IsNative m ↔ narrow = false := by
  cases hk : t.desugar.kind <;> simp only [hk, TypeKind.scalar?] at h <;> cases h <;>
    simp [IsNative, hk]

theorem isNative_iff_of_pointer (hk : t.desugar.kind = .pointer) (h : t.pointerResult = .ok c)
    (hm : c.kind = .value m) : t.IsNative m ↔ c.castRequired = false := by
  unfold pointerResult at h
  dsimp only at h
  split_ifs at h with _ hvoid hchars
  · cases h
    cases hm
    simp [isNative_pointerTo, hk, hvoid]
  · cases h
    cases hm
    simp [IsNative, hk, hchars]
  · cases h
    cases hm
    simp [isNative_pointerTo, hvoid]

theorem castRequired_typedefResult (h : t.typedefResult = .ok c) : c.castRequired = true := by
  unfold typedefResult at h
  dsimp only at h
  split at h
  · cases h
    rfl
  split at h
  · cases h
    rfl
  split_ifs at h <;> cases h <;> rfl

theorem castRequired_referenceResult (h : t.referenceResult = .ok c) : c.castRequired = true := by
  unfold referenceResult at h
  dsimp only at h
  split_ifs at h
  cases h
  rfl

/-- A result is cast exactly when its type is not native. -/
theorem isNative_iff (h : t.classifyResult = .ok (some c)) (hm : c.kind = .value m) :
    t.IsNative m ↔ c.castRequired = false := by
  unfold classifyResult at h
  dsimp only at h
  split at h
  · simp at h
  obtain ⟨result, hr, hc⟩ := map_eq_ok_iff.mp h
  obtain rfl := Option.some.inj hc
  split at hr
  · next htypedef =>
    have hnot : ¬t.IsNative m := fun hn => by simp [hn.not_isTypedef] at htypedef
    simp [hnot, castRequired_typedefResult hr]
  split at hr
  · next hscalar =>
    cases hr
    cases hm
    exact isNative_iff_of_scalar hscalar
  next hscalar =>
  replace hscalar : t.desugar.kind.scalar? = none := by
    rw [Option.eq_none_iff_forall_ne_some]
    exact fun x hx => hscalar x.1 x.2 hx
  split_ifs at hr with henum hpointer
  · cases hr
    simp [not_isNative hscalar (m := m) (by simp [henum]), scalarResult]
  · exact isNative_iff_of_pointer hpointer hr hm
  · simp [not_isNative hscalar (m := m) hpointer, castRequired_referenceResult hr]
  · cases hr
    simp [not_isNative hscalar (m := m) hpointer, recordResult]

end CType

/-! ## Classified answers -/

/-- How an answer that is classified as `c`, of the declared type `t`, is held as `m`: the helper
hands over `e`, and the mock puts `wraps` around what it reads. -/
structure Classification.Returns (c : Classification) (t : CType) (m : ValueKind)
    (wraps : List Wrap) (e : Expr) : Prop where
  /-- An address is handed over where the mock dereferences. -/
  address : e.render = "static_cast<" ++ m.nativeType ++ ">(&__return__)" ↔ .deref ∈ wraps
  /-- A cast value is handed over where the mock only casts back. -/
  cast : e.render = "static_cast<" ++ m.nativeType ++ ">(__return__)" ↔
    .deref ∉ wraps ∧ ∃ type, c.castType = some type ∧ .staticCast type ∈ wraps
  /-- The value itself is handed over where the mock does neither. -/
  plain : e.render = "__return__" ↔
    .deref ∉ wraps ∧ ¬∃ type, c.castType = some type ∧ .staticCast type ∈ wraps
  /-- This is so for native types and no others; none of them is a typedef. -/
  native : e.render = "__return__" ↔ t.IsNative m ∧ t.isTypedef = false
  /-- Only a pointer that was just cast is dereferenced. -/
  deref : .deref ∈ wraps → ∃ type rest, wraps = .staticCast type :: .deref :: rest ∧ .deref ∉ rest

namespace Classification

variable {c : Classification}

theorem SuitsResult.readBackWraps (h : c.SuitsResult) :
    c.readBackWraps = c.castType.toList.map .staticCast ++
      (if c.byAddress then [.deref] else []) ++ (if c.reference = .rvalue then [.move] else []) ++
      if c.typedefCast then [.staticCast c.rendered] else [] := by
  have hcast := h.cast
  unfold Classification.readBackWraps
  cases ht : c.castType with
  | none => simp [show c.castRequired = false by simpa [ht] using hcast]
  | some type => simp [show c.castRequired = true by simpa [ht] using hcast, nameOrNone]

theorem render_returnedExpr (c : Classification) (m : ValueKind) :
    (c.returnedExpr m).render =
      if c.byAddress then "static_cast<" ++ m.nativeType ++ ">(&__return__)"
      else if c.castRequired then "static_cast<" ++ m.nativeType ++ ">(__return__)"
      else "__return__" := by
  unfold returnedExpr
  cases c.byAddress <;> cases c.castRequired <;> cases m <;> rfl

/-- The three ways to hand an answer over are told apart by their texts. -/
theorem render_returnedExpr_iff (c : Classification) (m : ValueKind) :
    ((c.returnedExpr m).render = "static_cast<" ++ m.nativeType ++ ">(&__return__)" ↔
        c.byAddress = true) ∧
      ((c.returnedExpr m).render = "static_cast<" ++ m.nativeType ++ ">(__return__)" ↔
        c.byAddress = false ∧ c.castRequired = true) ∧
      ((c.returnedExpr m).render = "__return__" ↔
        c.byAddress = false ∧ c.castRequired = false) := by
  rw [render_returnedExpr]
  cases c.byAddress <;> cases c.castRequired <;> cases m <;> decide

namespace SuitsResult

theorem deref_mem_iff (h : c.SuitsResult) : .deref ∈ c.readBackWraps ↔ c.byAddress = true := by
  rw [h.readBackWraps]
  cases c.byAddress <;> simp

theorem staticCast_mem_iff (h : c.SuitsResult) :
    (∃ type, c.castType = some type ∧ .staticCast type ∈ c.readBackWraps) ↔
      c.castRequired = true := by
  rw [h.cast, h.readBackWraps, Option.isSome_iff_exists]
  constructor
  · rintro ⟨type, htype, -⟩
    exact ⟨type, htype⟩
  · rintro ⟨type, htype⟩
    exact ⟨type, htype, by simp [htype]⟩

theorem exists_of_deref_mem (h : c.SuitsResult) (hd : .deref ∈ c.readBackWraps) :
    ∃ type rest, c.readBackWraps = .staticCast type :: .deref :: rest ∧ .deref ∉ rest := by
  have hb := h.deref_mem_iff.mp hd
  obtain ⟨type, htype⟩ := Option.isSome_iff_exists.mp (h.cast.mp (h.byAddress hb))
  refine ⟨type, _, by rw [h.readBackWraps, htype, hb]; rfl, ?_⟩
  simp

/-- The two sides of a classified answer fit together. -/
theorem returns (h : c.SuitsResult) {t : CType} {m : ValueKind}
    (hc : t.classifyResult = .ok (some c)) (hm : c.kind = .value m) :
    c.Returns t m c.readBackWraps (c.returnedExpr m) := by
  obtain ⟨haddress, hcast, hplain⟩ := c.render_returnedExpr_iff m
  have hnative := CType.isNative_iff hc hm
  have hbyAddress := h.byAddress
  refine ⟨?_, ?_, ?_, ?_, h.exists_of_deref_mem⟩
  · rw [haddress, h.deref_mem_iff]
  · rw [hcast, h.deref_mem_iff, h.staticCast_mem_iff, Bool.not_eq_true]
  · rw [hplain, h.deref_mem_iff, h.staticCast_mem_iff, Bool.not_eq_true, Bool.not_eq_true]
  · rw [hplain]
    constructor
    · rintro ⟨-, hno⟩
      exact ⟨hnative.mpr hno, (hnative.mpr hno).not_isTypedef⟩
    · rintro ⟨hn, -⟩
      have hno := hnative.mp hn
      exact ⟨by simpa [hno] using hbyAddress, hno⟩

end SuitsResult

end Classification

/-! ## Answers of signatures -/

/-- The answer that a statement hands over. -/
def Statement.answer? : Statement → Option Expr
  | .andReturn e => some e
  | _ => none

namespace Helpers

variable (h : Helpers)

@[simp, grind =] theorem answer?_checkSlot (s : HelperSlot) : (h.checkSlot s).answer? = none := by
  unfold checkSlot
  split
  · rfl
  · split <;> rfl

@[simp, grind =] theorem filterMap_answer?_body :
    h.body.filterMap Statement.answer? = h.returnExpr?.toList := by
  rw [h.filterMap_body Statement.answer? rfl (fun _ => rfl) rfl rfl rfl]
  simp only [answer?_checkSlot]
  simp [Statement.answer?]

end Helpers

/-- How the mock library holds the answer. -/
def Signature.answerKind? (sig : Signature) : Option SlotKind :=
  match sig.resultOverride with
  | some o => some o.kind.slot
  | none => sig.result.map (·.kind)

theorem methodCall_return (m : ValueKind) :
    methodCall ("return" ++ m.apiName ++ "Value") [] = ".return" ++ m.apiName ++ "Value()" := by
  cases m <;> rfl

/-- The answer is held as its classification or its override says. -/
theorem Signature.Sound.exists_answerKind {sig : Signature} (h : sig.Sound)
    (hreturns : sig.returns = true) : ∃ m, sig.answerKind? = some (.value m) := by
  have value {k : SlotKind} (hk : k.isValue) : ∃ m, k = .value m := by
    cases k with
    | value m => exact ⟨m, rfl⟩
    | _ => simp [SlotKind.isValue] at hk
  unfold answerKind?
  cases ho : sig.resultOverride with
  | some o =>
    obtain ⟨m, hm⟩ := value (h.resultOverride o ho)
    exact ⟨m, by simp [hm]⟩
  | none =>
    obtain ⟨c, hc⟩ : ∃ c, sig.result = some c := by
      simpa [returns, ho, Option.isSome_iff_exists] using hreturns
    obtain ⟨m, hm⟩ := value (h.result c hc).kind
    exact ⟨m, by simp [hc, hm]⟩

/-- What the two sides do with an answer, by what holds it. -/
theorem Signature.exists_answer {sig : Signature} {m : ValueKind}
    (hm : sig.answerKind? = some (.value m)) :
    ∃ wraps e, sig.readBack? = .ok (some { kind := m, wraps }) ∧ sig.returnExpr? = .ok (some e) ∧
      (∀ c, sig.resultOverride = none → sig.result = some c →
        c.kind = .value m ∧ wraps = c.readBackWraps ∧ e = c.returnedExpr m) ∧
      ∀ o, sig.resultOverride = some o →
        wraps = [.inside o.expr] ∧ e.render = "__return__" ∧
          sig.returnType? = .ok (some (o.expectType.getD m.nativeType)) := by
  unfold answerKind? at hm
  unfold readBack? returnExpr? returnType?
  cases ho : sig.resultOverride with
  | some o =>
    simp only [ho, Option.some.injEq] at hm
    refine ⟨[.inside o.expr], { base := Helper.returnValue }, ?_, rfl, by simp, ?_⟩
    · simp [hm, SlotKind.returned]
    · rintro _ ⟨⟩
      refine ⟨rfl, rfl, ?_⟩
      cases ht : o.expectType <;> simp [ht, hm, SlotKind.returned]
  | none =>
    simp only [ho, Option.map_eq_some_iff] at hm
    obtain ⟨c, hc, hk⟩ := hm
    refine ⟨c.readBackWraps, c.returnedExpr m, ?_, ?_, ?_, by simp⟩
    · simp [hc, hk, SlotKind.returned]
    · simp [hc, hk, SlotKind.returned]
    · rintro c' - hc'
      obtain rfl : c = c' := Option.some.inj (hc.symm.trans hc')
      exact ⟨hk, rfl, rfl⟩

/-- The mock of a collected signature with a result reads the answer by the method of the kind that
it is held as, and the helpers hand over exactly one answer of this kind. A classified answer is
cast and passed by address on one side as on the other. An overridden one is handed over as it is,
as a value of the type that the override names or else of the library's. -/
theorem answer_is_read_as_handed_over {underlying : Bool}
    {parameterOptions typeOptions : List String} {cfg : Config}
    (hcfg : Config.build underlying parameterOptions typeOptions = .ok cfg) {s : Site}
    {sig : Signature} (hsig : (s.signature cfg).result = .ok sig) (hreturns : sig.returns = true) :
    ∃ mock helpers m wraps e, sig.mock = .ok mock ∧ sig.helpers = .ok helpers ∧
      sig.mockText = .ok mock.render ∧ sig.implementationsText = .ok helpers.implementations ∧
      sig.answerKind? = some (.value m) ∧ mock.readBack = some { kind := m, wraps } ∧
      mock.statement = "return " ++
        Wrap.applyAll wraps (mock.call.render ++ (".return" ++ m.apiName ++ "Value()")) ++ ";" ∧
      helpers.body.filterMap Statement.answer? = [e] ∧
      (∀ c, sig.resultOverride = none → sig.result = some c →
        c.Returns s.info.result m wraps e) ∧
      ∀ o, sig.resultOverride = some o →
        wraps = [.inside o.expr] ∧ e.render = "__return__" ∧
          helpers.returnType? = some (o.expectType.getD m.nativeType) := by
  have collects := Site.collects_of_signature hsig
  have sound := collects.sound (Config.sound_of_build hcfg)
  obtain ⟨mock, hmock, -⟩ := sound.exists_mock
  obtain ⟨helpers, hhelpers, -⟩ := sound.exists_helpers
  obtain ⟨m, hm⟩ := sound.exists_answerKind hreturns
  obtain ⟨wraps, e, hread, hexpr, hclassified, hoverridden⟩ := Signature.exists_answer hm
  obtain ⟨-, -, -, -, hread'⟩ := Signature.mock_eq_ok_iff.mp hmock
  obtain ⟨hheads, hexpr', -, -⟩ := Signature.helpers_eq_ok_iff.mp hhelpers
  obtain ⟨-, htype, -⟩ := Signature.helperHeads_eq_ok_iff.mp hheads
  have hreadBack : mock.readBack = some { kind := m, wraps } :=
    Except.ok.inj (hread'.symm.trans hread)
  have hreturnExpr : helpers.returnExpr? = some e := Except.ok.inj (hexpr'.symm.trans hexpr)
  refine ⟨mock, helpers, m, wraps, e, hmock, hhelpers,
    by simp [Signature.mockText, hmock],
    by simp [Signature.implementationsText, hhelpers], hm, hreadBack, ?_, ?_, ?_, ?_⟩
  · simp [Mock.statement, hreadBack, ReadBack.render, methodCall_return]
  · rw [helpers.filterMap_answer?_body, hreturnExpr]
    rfl
  · intro c ho hc
    obtain ⟨hk, rfl, rfl⟩ := hclassified c ho hc
    exact (sound.result c hc).returns (collects.classifyResult_eq hc) hk
  · intro o ho
    obtain ⟨hwraps, he, ht⟩ := hoverridden o ho
    exact ⟨hwraps, he, Except.ok.inj (htype.symm.trans ht)⟩

/-- The specimen with another result. -/
def Site.specimenReturning (t : CType) : Site :=
  { specimen with info := { specimen.info with result := t } }

/-- `const T &` -/
def CType.constReference : CType where
  kind := .lvalueReference
  spelling := "const T &"
  pointee? := some { kind := .record, spelling := "const T", isConst := true }

/-- A reference is handed over by its address and read back through a cast pointer. -/
theorem answer_is_read_as_handed_over_reference :
    ∃ cfg sig mock helpers e, ∃ c : Classification,
      Config.build false Config.specimenOptions [] = .ok cfg ∧
      ((Site.specimenReturning .constReference).signature cfg).result = .ok sig ∧
      sig.returns = true ∧ sig.mock = .ok mock ∧ sig.helpers = .ok helpers ∧
      mock.readBack =
        some { kind := .constPointer, wraps := [.staticCast "const T*", .deref] } ∧
      helpers.body.filterMap Statement.answer? = [e] ∧
      e.render = "static_cast<const void *>(&__return__)" ∧
      c.Returns .constReference .constPointer [.staticCast "const T*", .deref] e := by
  obtain ⟨cfg, hcfg⟩ : ∃ cfg, Config.build false Config.specimenOptions [] = .ok cfg := ⟨_, rfl⟩
  obtain ⟨sig, c, hsig, hreturns, ho, hc, hread⟩ : ∃ sig c,
      ((Site.specimenReturning .constReference).signature cfg).result = .ok sig ∧
        sig.returns = true ∧ sig.resultOverride = none ∧ sig.result = some c ∧
        sig.readBack? =
          .ok (some { kind := .constPointer, wraps := [.staticCast "const T*", .deref] }) := by
    cases hcfg
    exact ⟨_, _, rfl, rfl, rfl, rfl, rfl⟩
  obtain ⟨mock, helpers, m, wraps, e, hmock, hhelpers, -, -, -, hback, -, he, hall, -⟩ :=
    answer_is_read_as_handed_over hcfg hsig hreturns
  obtain ⟨-, -, -, -, hread'⟩ := Signature.mock_eq_ok_iff.mp hmock
  obtain ⟨rfl, rfl⟩ : m = .constPointer ∧ wraps = [.staticCast "const T*", .deref] := by
    simpa [hback, hread] using hread'.symm
  exact ⟨cfg, sig, mock, helpers, e, c, hcfg, hsig, hreturns, hmock, hhelpers, hback, he,
    (hall c ho hc).address.mpr (by simp), hall c ho hc⟩

end HeaderMock

import HeaderMock.Proofs.Override.Table
import HeaderMock.Proofs.Slot.Range
import HeaderMock.Signature.Collect

/-!
# Collected signatures

What a signature holds once it has been collected from a declaration, field by field, and what code
for it can rely on.

## Main definitions

* `Site.Collects`: each field of a collected signature and where it comes from.
* `Parameter.Sound`, `Signature.Sound`: everything that code looks up is there.

## Main statements

* `Site.collects_of_signature`: collecting gives such a signature.
* `Site.sound_of_signature`: under a sound configuration it is sound.
-/

namespace HeaderMock

/-! ## Parameters -/

/-- What is collected for the argument at `index` of `function`. -/
structure Argument.Collects (arg : Argument) (cfg : Config) (function : String) (index : Nat)
    (p : Parameter) : Prop where
  name : p.name = arg.name index
  typeSpelling : p.typeSpelling = arg.type.spelling
  override : p.override = cfg.resolveParameter function (arg.name index) arg.type.spelling
  classification :
    (if p.override.isSome then .ok none else (arg.type.classifyArgument cfg.underlying).map some) =
      .ok p.classification
  target : arg.type.target?.map (·.map (·.spelling)) = .ok p.targetSpelling

theorem Argument.collects_of_parameter {arg : Argument} {cfg : Config} {function : String}
    {index : Nat} {p : Parameter} (h : arg.parameter cfg function index = .ok p) :
    arg.Collects cfg function index p := by
  unfold Argument.parameter at h
  dsimp only at h
  split at h
  · next ho =>
    simp only [bind_eq_ok_iff, pure_eq_ok_iff] at h
    obtain ⟨classification, hc, target, ht, rfl⟩ := h
    exact ⟨rfl, rfl, rfl, by rw [if_pos ho, hc], by simp [ht]⟩
  · next ho =>
    simp only [bind_eq_ok_iff, pure_eq_ok_iff] at h
    obtain ⟨classification, hc, target, ht, rfl⟩ := h
    exact ⟨rfl, rfl, rfl, by rw [if_neg ho, hc], by simp [ht]⟩

/-- Exactly one of an override and a classification says how the parameter is handed over, and what
it says to be used is there. -/
inductive Parameter.Sound (p : Parameter) : Prop where
  | overridden (o : Override) (ho : p.override = some o) (hc : p.classification = none)
      (hn : ∀ name, o.kind.typeName? = some name → name ≠ "")
  | classified (c : Classification) (ho : p.override = none) (hc : p.classification = some c)
      (hs : c.SuitsArgument)

theorem Argument.Collects.sound {arg : Argument} {cfg : Config} {function : String} {index : Nat}
    {p : Parameter} (h : arg.Collects cfg function index p) (hcfg : cfg.Sound) : p.Sound := by
  have hc := h.classification
  cases ho : p.override with
  | some o =>
    refine .overridden o ho (by simpa [ho, eq_comm] using hc) fun name hn => ?_
    exact hcfg.resolveParameter_typeName (h.override.symm.trans ho) hn
  | none =>
    simp only [ho, Option.isSome_none, Bool.false_eq_true, if_false, map_eq_ok_iff] at hc
    obtain ⟨c, hclass, hc⟩ := hc
    exact .classified c ho hc.symm (CType.suits_classifyArgument hclass)

/-! ## Signatures -/

/-- Each field of a collected signature and where it comes from. -/
structure Site.Collects (s : Site) (cfg : Config) (sig : Signature) : Prop where
  routine : sig.routine = s.routine
  qualifiedName : sig.qualifiedName = s.qualifiedName
  helperName : sig.helperName = s.helperName
  namespaces : sig.namespaces = s.scopeNames
  parameters : s.parameters cfg = .ok sig.parameters
  resultSpelling : sig.resultSpelling = if s.hasResult then s.info.result.spelling else ""
  result : s.resultClassification? cfg = .ok sig.result
  resultOverride : sig.resultOverride = s.resultOverride? cfg
  isConst : sig.isConst = (s.routine == .method && s.info.isConst)
  isStatic : sig.isStatic = (s.routine == .method && s.info.isStatic)
  exceptionSpec : s.exceptionSpec.result = .ok sig.exceptionSpec
  ownerName : s.owner?.result = .ok sig.ownerName
  location : sig.location = s.info.location
  isVariadic : sig.isVariadic = s.info.isVariadic

/-- Everything that code for the signature looks up is there. -/
structure Signature.Sound (sig : Signature) : Prop where
  parameters : ∀ p ∈ sig.parameters, p.Sound
  result : ∀ c, sig.result = some c → c.SuitsResult
  resultOverride : ∀ o, sig.resultOverride = some o → o.kind.slot.isValue
  owner : sig.isMethod = true → sig.ownerName.isSome

namespace Site

variable {s : Site} {cfg : Config} {sig : Signature}

theorem collects_of_signature (h : (s.signature cfg).result = .ok sig) : s.Collects cfg sig := by
  simp only [signature, Report.result_bind_eq_ok_iff, located, Report.result_ofExcept,
    mapError_eq_ok_iff, Report.result_pure, Except.ok.injEq] at h
  obtain ⟨result, hr, parameters, hp, -, -, ownerName, ho, spec, he, rfl⟩ := h
  exact ⟨rfl, rfl, rfl, rfl, hp, rfl, hr, rfl, rfl, rfl, he, ho, rfl, rfl⟩

namespace Collects

/-- The parameters of a collected signature are those of the declaration, in their order. -/
theorem forall₂_parameters (h : s.Collects cfg sig) :
    List.Forall₂ (fun (a : Argument × Nat) p => a.1.Collects cfg s.qualifiedName a.2 p)
      s.info.args.zipIdx sig.parameters :=
  (mapM_eq_ok_iff.mp h.parameters).imp fun _ _ hp => Argument.collects_of_parameter hp

/-- The parameter that is collected for an argument. -/
theorem getElem?_parameters (h : s.Collects cfg sig) {i : Nat} {arg : Argument}
    (harg : s.info.args[i]? = some arg) :
    ∃ p, sig.parameters[i]? = some p ∧ arg.parameter cfg s.qualifiedName i = .ok p := by
  have harg' : s.info.args.zipIdx[i]? = some (arg, i) := by simp [List.getElem?_zipIdx, harg]
  obtain ⟨p, hp, hparameter⟩ := getElem?_of_forall₂ (mapM_eq_ok_iff.mp h.parameters) harg'
  exact ⟨p, hp, hparameter⟩

theorem sound_parameters (h : s.Collects cfg sig) (hcfg : cfg.Sound) :
    ∀ p ∈ sig.parameters, p.Sound := by
  intro p hp
  obtain ⟨a, -, ha⟩ := exists_of_mem_of_forall₂ h.forall₂_parameters hp
  exact ha.sound hcfg

/-- The classification of a result is that of its declared type. -/
theorem classifyResult_eq (h : s.Collects cfg sig) {c : Classification} (hc : sig.result = some c) :
    s.info.result.classifyResult = .ok (some c) := by
  have hr := h.result
  unfold resultClassification? at hr
  split at hr
  · exact hr.trans (congrArg _ hc)
  · simp [hc] at hr

theorem suits_result (h : s.Collects cfg sig) {c : Classification} (hc : sig.result = some c) :
    c.SuitsResult :=
  CType.suits_classifyResult (h.classifyResult_eq hc)

theorem isValue_resultOverride (h : s.Collects cfg sig) (hcfg : cfg.Sound) {o : Override}
    (ho : sig.resultOverride = some o) : o.kind.slot.isValue := by
  have hr := h.resultOverride.symm.trans ho
  unfold resultOverride? at hr
  split at hr
  · exact hcfg.resolveResult_isValue hr
  · simp at hr

/-- Every routine that is not a function has an owner. -/
theorem ownerName_isSome (h : s.Collects cfg sig) (hr : s.routine ≠ .function) :
    sig.ownerName.isSome := by
  have ho := h.ownerName
  unfold owner? at ho
  rw [if_neg hr] at ho
  split at ho
  · simp only [Report.result_pure, Except.ok.injEq] at ho
    simp [← ho]
  · simp at ho

theorem sound (h : s.Collects cfg sig) (hcfg : cfg.Sound) : sig.Sound where
  parameters := h.sound_parameters hcfg
  result _ hc := h.suits_result hc
  resultOverride _ ho := h.isValue_resultOverride hcfg ho
  owner hm := by
    apply h.ownerName_isSome
    intro hr
    simp [Signature.isMethod, h.routine, hr] at hm

end Collects

/-! ## Faults -/

theorem located_eq_error {α : Type} {x : Except TypeFault α} {fault : Fault}
    (h : (s.located x).result = .error fault) :
    fault = .noElementType ∨
      ∃ spelling, fault = .unsupportedType spelling (some s.info.location) := by
  cases x with
  | ok a => simp [located] at h
  | error e =>
    obtain rfl : Fault.ofType (some s.info.location) e = fault := by
      simpa [located] using h
    cases e with
    | unsupported spelling => exact .inr ⟨spelling, rfl⟩
    | noElement => exact .inl rfl

theorem owner?_eq_error {fault : Fault} (h : s.owner?.result = .error fault) :
    fault = .noOwner := by
  unfold owner? at h
  split at h
  · simp at h
  · split at h
    · simp at h
    · simpa [eq_comm] using h

theorem exceptionSpec_eq_error {fault : Fault} (h : s.exceptionSpec.result = .error fault) :
    fault = .noNoexcept := by
  unfold exceptionSpec at h
  dsimp only at h
  split at h
  · simp at h
  split at h
  · split at h
    · simpa [eq_comm] using h
    · split at h <;> simp at h
  split at h
  · simp [Report.result_bind_ok (Report.result_emit _)] at h
  · simp at h

/-- Collecting ends in an unsupported type, or the parser has left something out. -/
theorem signature_eq_error {fault : Fault} (h : (s.signature cfg).result = .error fault) :
    (∃ spelling, fault = .unsupportedType spelling (some s.info.location)) ∨
      fault = .noElementType ∨ fault = .noNoexcept ∨ fault = .noOwner := by
  simp only [signature, Report.result_bind_eq_error_iff] at h
  rcases h with h | ⟨_, -, h | ⟨_, -, h | ⟨_, -, h | ⟨_, -, h | ⟨_, -, h⟩⟩⟩⟩⟩
  · exact (located_eq_error h).symm.imp_right .inl
  · exact (located_eq_error h).symm.imp_right .inl
  · unfold checkVariadic at h
    split at h <;> simp at h
  · exact .inr (.inr (.inr (owner?_eq_error h)))
  · exact .inr (.inr (.inl (exceptionSpec_eq_error h)))
  · simp at h

/-- Under a sound configuration only sound signatures are collected. -/
theorem sound_of_signature (hcfg : cfg.Sound) (h : (s.signature cfg).result = .ok sig) :
    sig.Sound :=
  (collects_of_signature h).sound hcfg

/-! ## A specimen -/

/-- `int ns::C::m(E e, const T &t, int *n, char *raw, int unused)`, for closed statements. -/
def specimen : Site where
  routine := .method
  info :=
    { kind := .routine .method, spelling := "m", access := .opened, file := some "c.hpp"
      result := { kind := .int, spelling := "int" }
      args :=
        [{ spelling := "e", type := { kind := .enumeration, spelling := "E" } },
         { spelling := "t"
           type :=
            { kind := .lvalueReference, spelling := "const T &"
              pointee? := some { kind := .record, spelling := "const T", isConst := true } } },
         { spelling := "n"
           type :=
            { kind := .pointer, spelling := "int *"
              pointee? := some { kind := .int, spelling := "int" } } },
         { spelling := "raw"
           type :=
            { kind := .pointer, spelling := "char *"
              pointee? := some { kind := .plainSignedChar, spelling := "char" } } },
         { spelling := "unused", type := { kind := .int, spelling := "int" } }] }
  enclosing :=
    [{ kind := .classScope, spelling := "C" }, { kind := .namespaceScope, spelling := "ns" },
     .wholeUnit]

end Site

/-- The overrides of two parameters of the specimen. -/
def Config.specimenOptions : List String :=
  ["ns::C::m#raw=MemoryBuffer:4*$~char", "ns::C::m#unused=Skip"]

end HeaderMock

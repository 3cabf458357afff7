import HeaderMock.Proofs.Signature.Collected
import HeaderMock.Proofs.Slot.Elements

/-!
# Refused declarations

A declaration has no signature exactly when one of its slots is covered by no override and has a
type that the mock library has no slot for, provided that the parser reports all that is asked for.
The first such slot is reported.

## Main definitions

* `DeclSlot`, `Site.slots`: the slots of a declaration, in the order in which they are collected.
* `DeclSlot.IsUncovered`, `DeclSlot.Refused`: slots without an override, and those among them that
  are not supported.
* `Site.IsReportedInFull`: what the parser has to report.
* `DeclSlot.Settled`, `Site.Settles`: what a collected signature says about the slots.

## Main statements

* `Site.IsReportedInFull.errorOf?_signature`: the fault of a declaration is that of its first
  refused slot.
* `signature_refused_iff`: when a declaration is refused, and what is collected otherwise.
-/

namespace HeaderMock

theorem CType.isSome_of_classifyResult {t : CType} (hvoid : t.isVoid = false)
    {result : Option Classification} (h : t.classifyResult = .ok result) :
    result.isSome = true := by
  unfold CType.classifyResult at h
  dsimp only at h
  rw [hvoid, if_neg (by simp)] at h
  obtain ⟨c, -, rfl⟩ := map_eq_ok_iff.mp h
  rfl

/-! ## Slots of declarations -/

/-- A slot of a declaration. -/
inductive DeclSlot where
  | result (type : CType)
  | parameter (index : Nat) (arg : Argument)

namespace DeclSlot

/-- The key of an override for this slot of `function` alone. -/
def ownKey (function : String) : DeclSlot → String
  | .result _ => function ++ "@"
  | .parameter index arg => function ++ "#" ++ arg.name index

/-- The key of an override for all slots of this sort and type. -/
def typeKey : DeclSlot → String
  | .result type => "@" ++ type.spelling
  | .parameter _ arg => "#" ++ arg.type.spelling

/-- The override of the slot; its own key wins over the key of its type. -/
def override? (slot : DeclSlot) (cfg : Config) (function : String) : Option Override :=
  (cfg.parameterOverride (slot.ownKey function)).or (cfg.typeOverride slot.typeKey)

/-- How the slot crosses the mock library without an override. -/
def classify (cfg : Config) : DeclSlot → Except TypeFault (Option Classification)
  | .result type => type.classifyResult
  | .parameter _ arg => (arg.type.classifyArgument cfg.underlying).map some

/-- No override has a key of the slot. -/
def IsUncovered (slot : DeclSlot) (cfg : Config) (function : String) : Prop :=
  cfg.parameterOverride (slot.ownKey function) = none ∧ cfg.typeOverride slot.typeKey = none

/-- The slot is uncovered, and its classification refuses the type that is spelled so. -/
def Refused (slot : DeclSlot) (cfg : Config) (function spelling : String) : Prop :=
  slot.IsUncovered cfg function ∧ slot.classify cfg = .error (.unsupported spelling)

/-- Exactly one of a classification and an override is there for the slot, the override if and only
if there is one under a key of the slot. -/
structure Settled (slot : DeclSlot) (cfg : Config) (function : String)
    (classification : Option Classification) (override : Option Override) : Prop where
  override_eq : override = slot.override? cfg function
  one : classification.isSome = !override.isSome
  classified : ∀ c, classification = some c → slot.classify cfg = .ok (some c)

/-- The fault of the slot, if no override covers it. -/
def fault? (slot : DeclSlot) (cfg : Config) (function : String) : Option TypeFault :=
  if (slot.override? cfg function).isSome then none else errorOf? (slot.classify cfg)

variable {slot : DeclSlot} {cfg : Config} {function : String}

@[simp, grind =] theorem override?_eq_none_iff :
    slot.override? cfg function = none ↔ slot.IsUncovered cfg function :=
  Option.or_eq_none_iff

@[grind =] theorem fault?_eq_some_iff {e : TypeFault} :
    slot.fault? cfg function = some e ↔
      slot.IsUncovered cfg function ∧ slot.classify cfg = .error e := by
  unfold fault?
  split
  · next h =>
    have : ¬slot.IsUncovered cfg function := by
      rw [← override?_eq_none_iff]
      simpa [Option.isSome_iff_ne_none] using h
    simp [this]
  · next h =>
    have : slot.IsUncovered cfg function := by
      rw [← override?_eq_none_iff]
      simpa using h
    simp [this]

end DeclSlot

namespace Site

/-- The result of a declaration, if it gives a value back. -/
def resultSlot? (s : Site) : Option DeclSlot :=
  if s.hasResult && !s.info.result.isVoid then some (.result s.info.result) else none

/-- The slots of a declaration: its result, then its parameters from left to right. -/
def slots (s : Site) : List DeclSlot :=
  s.resultSlot?.toList ++ s.info.args.zipIdx.map fun (arg, i) => .parameter i arg

/-- The parser reports all that is asked for: the element types of arrays, the scope of a member,
and the keyword of a computed exception specification. -/
structure IsReportedInFull (s : Site) : Prop where
  elements : ∀ arg ∈ s.info.args, arg.type.HasElements
  scope : s.routine ≠ .function → s.enclosing ≠ []
  keyword : s.info.exception = .computedNoexcept → "throw" ∈ s.info.tokens →
    "noexcept" ∈ s.info.tokens

variable {s : Site} {cfg : Config} {sig : Signature}

/-! ## The first refused slot -/

theorem errorOf?_resultClassification? (s : Site) (cfg : Config) :
    errorOf? (s.resultClassification? cfg) =
      s.resultSlot?.toList.findSome? (·.fault? cfg s.qualifiedName) := by
  unfold resultClassification? resultSlot? resultOverride?
  cases hresult : s.hasResult with
  | false => rfl
  | true =>
    cases hvoid : s.info.result.isVoid with
    | true => simp [CType.classifyResult, hvoid, errorOf?]
    | false =>
      have hoverride : cfg.resolveResult s.qualifiedName s.info.result.spelling =
        (DeclSlot.result s.info.result).override? cfg s.qualifiedName := rfl
      cases ho : (DeclSlot.result s.info.result).override? cfg s.qualifiedName <;>
        simp [hoverride, DeclSlot.fault?, DeclSlot.classify, ho, errorOf?]

theorem errorOf?_parameter {arg : Argument} (h : arg.type.HasElements) (cfg : Config)
    (function : String) (index : Nat) :
    errorOf? (arg.parameter cfg function index) =
      (DeclSlot.parameter index arg).fault? cfg function := by
  have hoverride : cfg.resolveParameter function (arg.name index) arg.type.spelling =
    (DeclSlot.parameter index arg).override? cfg function := rfl
  obtain ⟨target?, htarget⟩ := h.exists_target?
  unfold Argument.parameter DeclSlot.fault?
  dsimp only
  rw [hoverride, htarget]
  cases ho : (DeclSlot.parameter index arg).override? cfg function with
  | some o => rfl
  | none =>
    rw [if_neg (by simp), if_neg (by simp), errorOf?_bind (e := none) fun _ => rfl, Option.or_none]
    rfl

theorem IsReportedInFull.errorOf?_owner? (h : s.IsReportedInFull) :
    errorOf? s.owner?.result = none := by
  unfold owner?
  split
  · rfl
  · next hroutine =>
    obtain ⟨scope, outer, hscopes⟩ := List.exists_cons_of_ne_nil (h.scope hroutine)
    simp [ownerName?, hscopes, errorOf?]

theorem IsReportedInFull.errorOf?_exceptionSpec (h : s.IsReportedInFull) :
    errorOf? s.exceptionSpec.result = none := by
  unfold exceptionSpec
  dsimp only
  split
  · rfl
  split
  · split
    · next hwritten hcomputed hmissing =>
      have hkeyword := h.keyword hcomputed
      simp_all
    · split <;> rfl
  split <;> rfl

/-- The fault of a declaration is that of its first refused slot. -/
theorem IsReportedInFull.errorOf?_signature (h : s.IsReportedInFull) (cfg : Config) :
    errorOf? (s.signature cfg).result =
      (s.slots.findSome? (·.fault? cfg s.qualifiedName)).map
        (Fault.ofType (some s.info.location)) := by
  unfold signature
  simp only [Report.result_bind, located, Report.result_ofExcept]
  have hvariadic : errorOf? s.checkVariadic.result = none := by
    unfold checkVariadic
    split <;> rfl
  have hparameters : errorOf? (s.parameters cfg) =
      (s.info.args.zipIdx.map fun (arg, i) => DeclSlot.parameter i arg).findSome?
        (·.fault? cfg s.qualifiedName) := by
    rw [List.findSome?_map]
    refine errorOf?_mapM ?_
    rintro ⟨arg, i⟩ harg
    have helements := h.elements arg (List.fst_mem_of_mem_zipIdx harg)
    exact errorOf?_parameter helements cfg s.qualifiedName i
  rw [errorOf?_bind (e := (errorOf? (s.parameters cfg)).map (Fault.ofType (some s.info.location)))]
  · rw [errorOf?_mapError, errorOf?_resultClassification?, hparameters, slots,
      List.findSome?_append]
    cases List.findSome? (·.fault? cfg s.qualifiedName) s.resultSlot?.toList <;> rfl
  intro result
  rw [errorOf?_bind (e := none), errorOf?_mapError, Option.or_none]
  intro parameters
  -- What comes after the slots does not fail.
  rw [errorOf?_bind (e := none), hvariadic]
  · rfl
  intro _
  rw [errorOf?_bind (e := none), h.errorOf?_owner?]
  · rfl
  intro _
  rw [errorOf?_bind (e := none) fun _ => rfl, h.errorOf?_exceptionSpec]
  rfl

/-- The slots of a declaration fail for no other reason than that they are refused. -/
theorem IsReportedInFull.fault?_eq_some_iff (h : s.IsReportedInFull) {slot : DeclSlot}
    (hslot : slot ∈ s.slots) {e : TypeFault} :
    slot.fault? cfg s.qualifiedName = some e ↔
      ∃ spelling, slot.Refused cfg s.qualifiedName spelling ∧ e = .unsupported spelling := by
  have hne : errorOf? (slot.classify cfg) ≠ some .noElement := by
    rcases List.mem_append.mp hslot with hslot | hslot
    · obtain ⟨-, rfl⟩ : _ ∧ .result s.info.result = slot := by
        simpa [resultSlot?] using hslot
      exact CType.classifyResult_ne_noElement
    · obtain ⟨⟨arg, i⟩, harg, rfl⟩ := List.mem_map.mp hslot
      have helements := h.elements arg (List.fst_mem_of_mem_zipIdx harg)
      rw [DeclSlot.classify, errorOf?_map]
      exact helements.classifyArgument_ne_noElement
  rw [DeclSlot.fault?_eq_some_iff]
  constructor
  · rintro ⟨hcover, he⟩
    cases e with
    | unsupported spelling => exact ⟨spelling, ⟨hcover, he⟩, rfl⟩
    | noElement => exact absurd (errorOf?_eq_some_iff.mpr he) hne
  · rintro ⟨spelling, hrefused, rfl⟩
    exact hrefused

theorem IsReportedInFull.fault?_eq_none_iff (h : s.IsReportedInFull) {slot : DeclSlot}
    (hslot : slot ∈ s.slots) :
    slot.fault? cfg s.qualifiedName = none ↔
      ¬∃ spelling, slot.Refused cfg s.qualifiedName spelling := by
  simp only [Option.eq_none_iff_forall_ne_some, ne_eq, h.fault?_eq_some_iff hslot]
  grind

/-- The first of the refused slots is refused for the type that is spelled so. -/
def FirstRefused (s : Site) (cfg : Config) (spelling : String) : Prop :=
  ∃ before slot after, s.slots = before ++ slot :: after ∧
    (∀ x ∈ before, ¬∃ spelling, x.Refused cfg s.qualifiedName spelling) ∧
    slot.Refused cfg s.qualifiedName spelling

theorem IsReportedInFull.findSome?_fault?_eq_some_iff (h : s.IsReportedInFull) {e : TypeFault} :
    s.slots.findSome? (·.fault? cfg s.qualifiedName) = some e ↔
      ∃ spelling, s.FirstRefused cfg spelling ∧ e = .unsupported spelling := by
  rw [List.findSome?_eq_some_iff]
  constructor
  · rintro ⟨before, slot, after, hslots, hslot, hbefore⟩
    obtain ⟨spelling, hrefused, rfl⟩ := (h.fault?_eq_some_iff (by simp [hslots])).mp hslot
    refine ⟨spelling, ⟨before, slot, after, hslots, fun x hx => ?_, hrefused⟩, rfl⟩
    exact (h.fault?_eq_none_iff (by simp [hslots, hx])).mp (hbefore x hx)
  · rintro ⟨spelling, ⟨before, slot, after, hslots, hbefore, hrefused⟩, rfl⟩
    refine ⟨before, slot, after, hslots, ?_, fun x hx => ?_⟩
    · exact (h.fault?_eq_some_iff (by simp [hslots])).mpr ⟨spelling, hrefused, rfl⟩
    · exact (h.fault?_eq_none_iff (by simp [hslots, hx])).mpr (hbefore x hx)

theorem IsReportedInFull.signature_eq_error_iff (h : s.IsReportedInFull) {fault : Fault} :
    (s.signature cfg).result = .error fault ↔ ∃ spelling, s.FirstRefused cfg spelling ∧
      fault = .unsupportedType spelling (some s.info.location) := by
  rw [← errorOf?_eq_some_iff, h.errorOf?_signature, Option.map_eq_some_iff]
  simp only [h.findSome?_fault?_eq_some_iff]
  constructor
  · rintro ⟨_, ⟨spelling, hfirst, rfl⟩, rfl⟩
    exact ⟨spelling, hfirst, rfl⟩
  · rintro ⟨spelling, hfirst, rfl⟩
    exact ⟨_, ⟨spelling, hfirst, rfl⟩, rfl⟩

theorem IsReportedInFull.exists_signature_iff (h : s.IsReportedInFull) :
    (∃ sig, (s.signature cfg).result = .ok sig) ↔
      ¬∃ slot ∈ s.slots, ∃ spelling, slot.Refused cfg s.qualifiedName spelling := by
  rw [← errorOf?_eq_none_iff, h.errorOf?_signature, Option.map_eq_none_iff,
    List.findSome?_eq_none_iff]
  constructor
  · rintro hnone ⟨slot, hslot, hrefused⟩
    exact (h.fault?_eq_none_iff hslot).mp (hnone slot hslot) hrefused
  · intro hnone slot hslot
    exact (h.fault?_eq_none_iff hslot).mpr fun hrefused => hnone ⟨slot, hslot, hrefused⟩

/-! ## Collected slots -/

/-- What a collected signature says about the slots of its declaration. -/
structure Settles (s : Site) (cfg : Config) (sig : Signature) : Prop where
  length : sig.parameters.length = s.info.args.length
  parameter : ∀ i arg, s.info.args[i]? = some arg → ∃ p, sig.parameters[i]? = some p ∧
    p.name = (if arg.spelling = "" then "_unnamedArg" ++ toString i else arg.spelling) ∧
    (DeclSlot.parameter i arg).Settled cfg s.qualifiedName p.classification p.override
  result : s.hasResult = true → s.info.result.isVoid = false →
    (DeclSlot.result s.info.result).Settled cfg s.qualifiedName sig.result sig.resultOverride
  noResult : s.hasResult = false ∨ s.info.result.isVoid = true →
    sig.result = none ∧ sig.resultOverride = none

theorem settled_parameter {arg : Argument} {function : String} {index : Nat} {p : Parameter}
    (h : arg.Collects cfg function index p) :
    (DeclSlot.parameter index arg).Settled cfg function p.classification p.override := by
  have hclass := h.classification
  refine ⟨h.override, ?_, ?_⟩
  · split at hclass
    · next ho => simp [← Except.ok.inj hclass, ho]
    · next ho =>
      obtain ⟨c, -, hc⟩ := map_eq_ok_iff.mp hclass
      simp [← hc, ho]
  · intro c hc
    rw [hc] at hclass
    split at hclass
    · cases hclass
    · exact hclass

theorem Collects.settles (h : s.Collects cfg sig) : s.Settles cfg sig where
  length := by simpa using h.forall₂_parameters.length_eq.symm
  parameter i arg harg := by
    obtain ⟨p, hp, hparameter⟩ := h.getElem?_parameters harg
    have hcollects := Argument.collects_of_parameter hparameter
    exact ⟨p, hp, hcollects.name, settled_parameter hcollects⟩
  result hresult hvoid := by
    have hoverride : sig.resultOverride =
        (DeclSlot.result s.info.result).override? cfg s.qualifiedName := by
      rw [h.resultOverride, resultOverride?, hresult, hvoid]
      rfl
    have hclass := h.result
    rw [resultClassification?, ← h.resultOverride, hresult] at hclass
    refine ⟨hoverride, ?_, fun c hc => h.classifyResult_eq hc⟩
    cases ho : sig.resultOverride with
    | some o =>
      rw [ho] at hclass
      simp [← Except.ok.inj hclass]
    | none =>
      rw [ho] at hclass
      exact CType.isSome_of_classifyResult hvoid hclass
  noResult hnone := by
    have hoverride : s.resultOverride? cfg = none := by
      unfold resultOverride?
      rcases hnone with hnone | hnone <;> simp [hnone]
    have hclass : s.resultClassification? cfg = .ok none := by
      unfold resultClassification? CType.classifyResult
      rcases hnone with hnone | hnone <;> simp [hnone]
    exact ⟨Except.ok.inj (h.result.symm.trans hclass), h.resultOverride.trans hoverride⟩

end Site

/-- A declaration that the parser reports in full is refused exactly if one of its slots is covered
by no override and not supported. The fault then says where the declaration stands and for which
type its first such slot is refused, the result coming before the parameters and these from left to
right. Otherwise a signature is collected that settles every slot. -/
theorem signature_refused_iff {s : Site} (hs : s.IsReportedInFull) (cfg : Config) :
    ((∃ spelling location,
          (s.signature cfg).result = .error (.unsupportedType spelling location)) ↔
        ∃ slot ∈ s.slots, ∃ spelling, slot.Refused cfg s.qualifiedName spelling) ∧
      (∀ fault, (s.signature cfg).result = .error fault ↔ ∃ spelling,
        s.FirstRefused cfg spelling ∧ fault = .unsupportedType spelling (some s.info.location)) ∧
      ((¬∃ slot ∈ s.slots, ∃ spelling, slot.Refused cfg s.qualifiedName spelling) →
        ∃ sig, (s.signature cfg).result = .ok sig ∧ s.Settles cfg sig) := by
  refine ⟨⟨?_, fun hrefused => ?_⟩, fun fault => hs.signature_eq_error_iff, fun hnone => ?_⟩
  · rintro ⟨spelling, location, herror⟩
    obtain ⟨spelling, ⟨before, slot, after, hslots, -, hrefused⟩, -⟩ :=
      hs.signature_eq_error_iff.mp herror
    exact ⟨slot, by simp [hslots], spelling, hrefused⟩
  · cases hresult : (s.signature cfg).result with
    | ok sig => exact absurd hrefused (hs.exists_signature_iff.mp ⟨sig, hresult⟩)
    | error fault =>
      obtain ⟨spelling, -, rfl⟩ := hs.signature_eq_error_iff.mp hresult
      exact ⟨spelling, _, rfl⟩
  · obtain ⟨sig, hsig⟩ := hs.exists_signature_iff.mpr hnone
    exact ⟨sig, hsig, (Site.collects_of_signature hsig).settles⟩

/-- `long long wide(int row[4], long long)` -/
def Site.wide : Site where
  routine := .function
  info :=
    { kind := .routine .function, spelling := "wide", file := some "c.hpp", line := 3, column := 11
      result := { kind := .other "LONGLONG", spelling := "long long" }
      args :=
        [{ spelling := "row"
           type :=
            { kind := .constantArray, spelling := "int[4]"
              element? := some { kind := .int, spelling := "int" } } },
         { type := { kind := .other "LONGLONG", spelling := "long long" } }] }
  enclosing := [.wholeUnit]

/-- Both results and parameters of type `long long` are handed over as `long`. -/
def Config.narrowing : Config where
  types := [("@long long", { kind := .value .long }), ("#long long", { kind := .value .long })]

/-- Without overrides the result is refused, and with overrides for both slots all are settled. -/
theorem signature_refused_iff_wide :
    Site.wide.IsReportedInFull ∧
      (Site.wide.signature {}).result =
        .error (.unsupportedType "long long" (some "c.hpp:3:11")) ∧
      ∃ sig, (Site.wide.signature .narrowing).result = .ok sig ∧
        Site.wide.Settles .narrowing sig := by
  have hfull : Site.wide.IsReportedInFull := by
    refine ⟨?_, nofun, nofun⟩
    intro arg harg u hu
    obtain rfl | rfl : arg = _ ∨ arg = _ := by simpa [Site.wide] using harg
    · rcases hu.eq_or_eq_invalid nofun rfl rfl with rfl | rfl
      · exact fun _ => rfl
      · exact nofun
    · rcases hu.eq_or_eq_invalid nofun rfl rfl with rfl | rfl <;> exact nofun
  refine ⟨hfull, ?_, ?_⟩
  · refine ((signature_refused_iff hfull {}).2.1 _).mpr ⟨"long long", ?_, rfl⟩
    exact ⟨[], .result Site.wide.info.result, _, rfl, by simp, ⟨rfl, rfl⟩, rfl⟩
  · refine (signature_refused_iff hfull .narrowing).2.2 ?_
    rintro ⟨slot, hslot, spelling, ⟨-, htype⟩, hclass⟩
    change slot ∈ [.result _, .parameter 0 _, .parameter 1 _] at hslot
    simp only [List.mem_cons, List.not_mem_nil, or_false] at hslot
    rcases hslot with rfl | rfl | rfl
    · cases htype
    · cases hclass
    · cases htype

end HeaderMock

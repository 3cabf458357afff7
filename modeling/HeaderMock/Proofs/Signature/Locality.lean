import HeaderMock.Proofs.Override.Key
import HeaderMock.Proofs.Signature.Collected

/-!
# Signatures under one more override

One more option changes the signature of a declaration in the slots that its key picks and nowhere
else; a declaration without such a slot keeps its signature, or the fault in its place.

## Main definitions

* `OverrideKey.picksArgument`, `OverrideKey.picksResultOf`, `OverrideKey.picks`: the slots of a
  declaration, and the declarations, that a key can decide about.
* `Site.VariesOnlyAt`: two configurations differ for a declaration in picked slots only.
* `Site.AgreeOutside`: so do two signatures of it.

## Main statements

* `Config.Extends.variesOnlyAt`: one more option changes picked slots only.
* `Site.VariesOnlyAt.agreeOutside`: then so do the signatures.
* `Site.VariesOnlyAt.signature_eq`: without a picked slot nothing changes.
-/

namespace HeaderMock

/-! ## Picked slots -/

namespace OverrideKey

/-- The key can decide about the argument at `index` of the declaration. -/
def picksArgument (key : OverrideKey) (cfg : Config) (s : Site) (arg : Argument) (index : Nat) :
    Bool :=
  key.picksParameter cfg s.qualifiedName (arg.name index) arg.type.spelling

/-- The key can decide about the result of the declaration, which then is not `void`. -/
def picksResultOf (key : OverrideKey) (cfg : Config) (s : Site) : Bool :=
  s.hasResult && !s.info.result.isVoid &&
    key.picksResult cfg s.qualifiedName s.info.result.spelling

/-- The key can decide about a slot of the declaration. -/
def picks (key : OverrideKey) (cfg : Config) (s : Site) : Bool :=
  key.picksResultOf cfg s || s.info.args.zipIdx.any fun (arg, i) => key.picksArgument cfg s arg i

variable {key : OverrideKey} {cfg : Config} {s : Site}

theorem picks_eq_false_iff :
    key.picks cfg s = false ↔ key.picksResultOf cfg s = false ∧
      ∀ i arg, s.info.args[i]? = some arg → key.picksArgument cfg s arg i = false := by
  simp only [picks, Bool.or_eq_false_iff, List.any_eq_false, Prod.forall,
    List.mk_mem_zipIdx_iff_getElem?, Bool.not_eq_true]
  exact and_congr_right fun _ => forall_comm

/-- A key of a function picks no slot of other functions. -/
theorem picks_eq_false_of_function_ne {function : String}
    (hkey : key = .result function ∨ ∃ name, key = .parameter function name)
    (hne : s.qualifiedName ≠ function) : key.picks cfg s = false := by
  have hne' : (function == s.qualifiedName) = false := beq_eq_false_iff_ne.mpr hne.symm
  rcases hkey with rfl | ⟨name, rfl⟩ <;>
    simp [picks_eq_false_iff, picksResultOf, picksArgument, picksResult, picksParameter, hne']

end OverrideKey

/-! ## Plain names -/

/-- The name of the argument holds no sign that keys are made of. -/
def Argument.HasPlainName (arg : Argument) : Prop :=
  '#' ∉ arg.spelling.toList ∧ '@' ∉ arg.spelling.toList

/-- The number in place of a missing name is plain as well. -/
theorem Argument.HasPlainName.isPlain {arg : Argument} (h : arg.HasPlainName) (function : String)
    (index : Nat) : (OverrideKey.parameter function (arg.name index)).IsPlain := by
  unfold Argument.name
  split
  · have digits (c : Char) (hc : c.isDigit = false) : c ∉ (toString index).toList := by
      intro hmem
      simp [Text.isDigit_of_mem_toString hmem] at hc
    constructor
    · simpa using digits '#' (by decide)
    · simpa using digits '@' (by decide)
  · exact h

/-! ## Slots -/

variable {s : Site} {key : OverrideKey} {cfg cfg' : Config}

/-- What is collected for an argument depends on the override that is found for it. -/
theorem Argument.parameter_congr {arg : Argument} {function : String} {index : Nat}
    (hu : cfg'.underlying = cfg.underlying)
    (hr : cfg'.resolveParameter function (arg.name index) arg.type.spelling =
      cfg.resolveParameter function (arg.name index) arg.type.spelling) :
    arg.parameter cfg' function index = arg.parameter cfg function index := by
  unfold Argument.parameter
  dsimp only
  rw [hr, hu]

namespace Site

theorem resultClassification?_congr (h : s.resultOverride? cfg' = s.resultOverride? cfg) :
    s.resultClassification? cfg' = s.resultClassification? cfg := by
  rw [resultClassification?, resultClassification?, h]

/-- A signature depends on the configuration through its slots only. -/
theorem signature_congr (ho : s.resultOverride? cfg' = s.resultOverride? cfg)
    (hp : s.parameters cfg' = s.parameters cfg) : s.signature cfg' = s.signature cfg := by
  rw [signature, signature, resultClassification?_congr ho, ho, hp]

/-- The two configurations differ for the declaration in slots that the key picks and nowhere
else. -/
structure VariesOnlyAt (s : Site) (key : OverrideKey) (cfg cfg' : Config) : Prop where
  parameter : ∀ i arg, s.info.args[i]? = some arg → key.picksArgument cfg s arg i = false →
    arg.parameter cfg' s.qualifiedName i = arg.parameter cfg s.qualifiedName i
  resultOverride : key.picksResultOf cfg s = false → s.resultOverride? cfg' = s.resultOverride? cfg
  resultClassification : key.picksResultOf cfg s = false →
    s.resultClassification? cfg' = s.resultClassification? cfg

/-- Two signatures of the declaration differ in slots that the key picks and nowhere else. -/
structure AgreeOutside (s : Site) (key : OverrideKey) (cfg : Config) (sig sig' : Signature) :
    Prop where
  rest : { sig' with
    parameters := sig.parameters, result := sig.result
    resultOverride := sig.resultOverride } = sig
  length : sig'.parameters.length = sig.parameters.length
  parameter : ∀ i arg, s.info.args[i]? = some arg → key.picksArgument cfg s arg i = false →
    sig'.parameters[i]? = sig.parameters[i]?
  result : key.picksResultOf cfg s = false →
    sig'.result = sig.result ∧ sig'.resultOverride = sig.resultOverride

/-- What does not depend on the configuration is collected alike. -/
theorem Collects.rest_eq {sig sig' : Signature} (h : s.Collects cfg sig)
    (h' : s.Collects cfg' sig') :
    { sig' with
      parameters := sig.parameters, result := sig.result
      resultOverride := sig.resultOverride } = sig := by
  have hspec := Except.ok.inj (h'.exceptionSpec.symm.trans h.exceptionSpec)
  have howner := Except.ok.inj (h'.ownerName.symm.trans h.ownerName)
  rw [h'.routine, h'.qualifiedName, h'.helperName, h'.namespaces, h'.resultSpelling, h'.isConst,
    h'.isStatic, h'.location, h'.isVariadic, hspec, howner, ← h.isConst, ← h.isStatic,
    ← h.resultSpelling, ← h.qualifiedName, ← h.helperName, ← h.namespaces, ← h.location,
    ← h.isVariadic, ← h.routine]

namespace VariesOnlyAt

theorem parameters_eq (h : s.VariesOnlyAt key cfg cfg') (hpicks : key.picks cfg s = false) :
    s.parameters cfg' = s.parameters cfg := by
  apply mapM_congr
  rintro ⟨arg, i⟩ ha
  have harg := List.mk_mem_zipIdx_iff_getElem?.mp ha
  exact h.parameter i arg harg ((OverrideKey.picks_eq_false_iff.mp hpicks).2 i arg harg)

/-- Without a picked slot nothing changes, faults and events included. -/
theorem signature_eq (h : s.VariesOnlyAt key cfg cfg') (hpicks : key.picks cfg s = false) :
    s.signature cfg' = s.signature cfg :=
  signature_congr (h.resultOverride (OverrideKey.picks_eq_false_iff.mp hpicks).1)
    (h.parameters_eq hpicks)

theorem agreeOutside (h : s.VariesOnlyAt key cfg cfg') {sig sig' : Signature}
    (hs : (s.signature cfg).result = .ok sig) (hs' : (s.signature cfg').result = .ok sig') :
    s.AgreeOutside key cfg sig sig' := by
  have hc := collects_of_signature hs
  have hc' := collects_of_signature hs'
  refine ⟨hc.rest_eq hc', ?_, ?_, ?_⟩
  · rw [← hc.forall₂_parameters.length_eq, ← hc'.forall₂_parameters.length_eq]
  · intro i arg harg hpicked
    obtain ⟨p, hp, hparameter⟩ := hc.getElem?_parameters harg
    obtain ⟨p', hp', hparameter'⟩ := hc'.getElem?_parameters harg
    rw [h.parameter i arg harg hpicked, hparameter] at hparameter'
    rw [hp, hp', Except.ok.inj hparameter']
  · intro hpicked
    have hresult := hc'.result
    rw [h.resultClassification hpicked, hc.result] at hresult
    exact ⟨(Except.ok.inj hresult).symm,
      by rw [hc.resultOverride, hc'.resultOverride, h.resultOverride hpicked]⟩

end VariesOnlyAt

end Site

/-! ## One more option -/

/-- One more option changes the slots that its key picks and nothing else. -/
theorem Config.Extends.variesOnlyAt (h : Config.Extends key cfg cfg') (hkey : key.IsPlain)
    (hnames : ∀ arg ∈ s.info.args, arg.HasPlainName) : s.VariesOnlyAt key cfg cfg' := by
  have hresult (hp : key.picksResultOf cfg s = false) :
      s.resultOverride? cfg' = s.resultOverride? cfg := by
    unfold Site.resultOverride?
    split
    · next hvalue =>
      exact h.resolveResult_eq hkey (by simpa [OverrideKey.picksResultOf, hvalue] using hp)
    · rfl
  refine ⟨?_, hresult, fun hp => Site.resultClassification?_congr (hresult hp)⟩
  intro i arg harg hp
  have hplain := (hnames arg (List.mem_of_getElem? harg)).isPlain s.qualifiedName i
  exact Argument.parameter_congr h.underlying_eq (h.resolveParameter_eq hkey hplain hp)

end HeaderMock

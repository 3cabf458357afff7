import HeaderMock.Generate
import HeaderMock.Proofs.Code.Brackets
import HeaderMock.Proofs.Rendering.Parts
import HeaderMock.Proofs.Slot.Brackets

/-!
# Well-bracketed code

If the names and types of a declaration are spelled with balanced brackets, and the overrides in use
are balanced around their places to fill, then so is all code for the declaration.

## Main definitions

* `Override.IsBalanced`, `Site.IsBalanced`: what is asked of overrides and declarations.
* `Parameter.IsBalanced`, `Signature.IsBalanced`: the same of what is collected.

## Main statements

* `Signature.IsBalanced.mock`, `Signature.IsBalanced.helpers`: the code for a signature.
* `Site.Collects.isBalanced`: collected signatures.
* `code_is_well_bracketed`: the code for a declaration.
-/

namespace HeaderMock

open Text

/-! ## Overrides -/

/-- All texts of the override are balanced, those around a place to fill taken together. -/
structure Override.IsBalanced (o : Override) : Prop where
  expr : Balanced o.expr.text
  size : Balanced o.kind.size.text
  typeName : ∀ name ∈ o.kind.typeName?, Balanced name
  expectType : ∀ type ∈ o.expectType, Balanced type

instance (o : Override) : Decidable o.IsBalanced :=
  decidable_of_iff
    (Balanced o.expr.text ∧ Balanced o.kind.size.text ∧
      (∀ name ∈ o.kind.typeName?, Balanced name) ∧ ∀ type ∈ o.expectType, Balanced type)
    ⟨fun h => ⟨h.1, h.2.1, h.2.2.1, h.2.2.2⟩,
      fun h => ⟨h.expr, h.size, h.typeName, h.expectType⟩⟩

/-- All texts of the parameter are balanced. -/
structure Parameter.IsBalanced (p : Parameter) : Prop where
  name : Balanced p.name
  typeSpelling : Balanced p.typeSpelling
  classification : ∀ c ∈ p.classification, c.IsBalanced
  override : ∀ o ∈ p.override, o.IsBalanced
  target : ∀ s ∈ p.targetSpelling, Balanced s

theorem balanced_getD {name : Option String} {default : String} (h : ∀ s ∈ name, Balanced s)
    (hdefault : Balanced default) : Balanced (name.getD default) := by
  cases name with
  | none => exact hdefault
  | some s => exact h s rfl

/-! ## Reports -/

theorem Override.IsBalanced.actualMatcher? {o : Override} (h : o.IsBalanced) {name : String}
    (hname : Balanced name) {m : ActualMatcher} (hm : o.actualMatcher? name = some m) :
    m.IsBalanced := by
  obtain ⟨kind, expr, expectType⟩ := o
  have hbase : (Expr.mk name []).IsBalanced := Expr.isBalanced_base hname
  have he : (Expr.mk name [.inside expr]).IsBalanced := hbase.wrap (w := .inside expr) h.expr
  have hsingle : ∀ e ∈ [Expr.mk name [.inside expr]], e.IsBalanced :=
    List.forall_mem_singleton.mpr he
  cases kind with
  | value | output | outputPod =>
    cases hm
    exact ⟨hname, nofun, hsingle⟩
  | inputOfType | outputOfType =>
    cases hm
    exact ⟨hname, h.typeName, hsingle⟩
  | inputPod =>
    cases hm
    exact ⟨hname, nofun, forall_mem_pair he.asBytes (he.wrap (w := .sizeOfTarget) trivial)⟩
  | memoryBuffer size =>
    cases hm
    exact ⟨hname, nofun, forall_mem_pair he.asBytes (hbase.wrap (w := .inside size) h.size)⟩
  | skip => cases hm

theorem Classification.IsBalanced.actualMatcher {c : Classification} (h : c.IsBalanced)
    {name : String} (hname : Balanced name) {m : ActualMatcher}
    (hm : c.actualMatcher name = .ok m) : m.IsBalanced := by
  have he := ((Expr.isBalanced_base hname).wrapIf (b := c.byAddress) (w := .addressOf)
    fun _ => trivial).wrapIf (b := c.castRequired) (w := .staticCast (nameOrNone c.castType))
    fun _ => balanced_nameOrNone h.castType
  have hsingle := List.forall_mem_singleton.mpr he
  have htag : ∀ tag ∈ some (nameOrNone c.tag), Balanced tag := by
    rintro _ ⟨⟩
    exact balanced_nameOrNone h.tag
  unfold Classification.actualMatcher at hm
  dsimp only at hm
  split at hm
  · cases hm
    exact ⟨hname, nofun, hsingle⟩
  · cases hm
    exact ⟨hname, nofun, hsingle⟩
  · cases hm
    exact ⟨hname, htag, hsingle⟩
  · cases hm
    exact ⟨hname, htag, hsingle⟩
  · cases hm

theorem Classification.IsBalanced.readBackWraps {c : Classification} (h : c.IsBalanced) :
    ∀ w ∈ c.readBackWraps, w.IsBalanced := by
  simp only [Classification.readBackWraps, List.mem_append]
  rintro w (((hw | hw) | hw) | hw)
  · exact forall_mem_ite (a := Wrap.staticCast _) (balanced_nameOrNone h.castType) w hw
  · exact forall_mem_ite (a := Wrap.deref) trivial w hw
  · exact forall_mem_ite (a := Wrap.move) trivial w hw
  · exact forall_mem_ite (a := Wrap.staticCast _) h.rendered w hw

/-! ## Slots -/

theorem HelperSlot.isBalanced_buffer {name : String} (hname : Balanced name) :
    (HelperSlot.buffer name).IsBalanced where
  name := hname
  type := ValueKind.balanced_nativeType _
  matcher := ⟨hname, nofun, forall_mem_pair (Expr.isBalanced_base hname)
    (Expr.isBalanced_base (Helper.balanced_sizeOf hname))⟩

theorem HelperSlot.isBalanced_output {name type : String} (hname : Balanced name)
    (htype : Balanced type) : (HelperSlot.output name type).IsBalanced where
  name := hname
  type := htype
  matcher := ⟨hname, nofun, forall_mem_pair (Helper.isBalanced_argument hname)
    ((Helper.isBalanced_argument hname).wrap (w := .sizeOfTarget) trivial)⟩

theorem Parameter.IsBalanced.pointedType {p : Parameter} (h : p.IsBalanced) :
    Balanced p.pointedType := by
  have hdropped : Balanced (String.ofList
      (dropRight (fun c => c == ' ' || c == '*' || c == '&') p.typeSpelling.toList)) := by
    refine (balanced_congr ?_).mpr h.typeSpelling
    rw [brackets_ofList, filter_dropRight fun c hc => not_isBracket_of (by decide) hc]
    rfl
  exact (balanced_congr (Spelling.brackets_withoutConst _)).mpr (balanced_getD h.target hdropped)

theorem Override.IsBalanced.helperSlot? {o : Override} (h : o.IsBalanced) {p : Parameter}
    (hp : p.IsBalanced) {slot : HelperSlot} (hslot : o.helperSlot? p = some slot) :
    slot.IsBalanced := by
  obtain ⟨kind, expr, expectType⟩ := o
  have hname := hp.name
  have he : (Helper.argument p.name).IsBalanced := Helper.isBalanced_argument hname
  have hsingle := List.forall_mem_singleton.mpr he
  have hpointer {default : String} (hdefault : Balanced default) :
      Balanced (Spelling.constPointerTo (expectType.getD default)) :=
    Spelling.balanced_constPointerTo (balanced_getD h.expectType hdefault)
  cases kind with
  | value kind =>
    cases hslot
    exact ⟨hname, balanced_getD h.expectType kind.balanced_nativeType, hname, nofun, hsingle⟩
  | output =>
    cases expectType with
    | none =>
      cases hslot
      exact HelperSlot.isBalanced_buffer hname
    | some type =>
      cases hslot
      exact HelperSlot.isBalanced_output hname
        (Spelling.balanced_constPointerTo (h.expectType type rfl))
  | inputOfType tag | outputOfType tag =>
    cases hslot
    exact ⟨hname, hpointer (h.typeName tag rfl), hname, h.typeName, hsingle⟩
  | inputPod =>
    cases hslot
    exact ⟨hname, hpointer hp.pointedType, hname, nofun,
      forall_mem_pair he.asBytes (he.wrap (w := .sizeOfTarget) trivial)⟩
  | outputPod =>
    cases hslot
    exact HelperSlot.isBalanced_output hname (hpointer hp.pointedType)
  | memoryBuffer =>
    have hsize : (Expr.mk (Helper.sizeOf p.name) []).IsBalanced :=
      Expr.isBalanced_base (Helper.balanced_sizeOf hname)
    cases expectType with
    | none =>
      cases hslot
      exact ⟨hname, ValueKind.balanced_nativeType _, hname, nofun,
        forall_mem_pair (he.staticCast (by decide)) hsize⟩
    | some type =>
      cases hslot
      exact ⟨hname, Spelling.balanced_constPointerTo (h.expectType type rfl), hname, nofun,
        forall_mem_pair he.asBytes hsize⟩
  | skip => cases hslot

theorem Classification.IsBalanced.helperSlot {c : Classification} (h : c.IsBalanced)
    {name : String} (hname : Balanced name) : (c.helperSlot name).IsBalanced := by
  have he : (Helper.argument name).IsBalanced := Helper.isBalanced_argument hname
  have hobject := List.forall_mem_singleton.mpr
    (he.wrapIf (b := c.byAddress && !c.pointerLike) (w := .addressOf) fun _ => trivial)
  have hcast := List.forall_mem_singleton.mpr
    (he.wrapIf (b := c.castRequired) (w := .staticCast (nameOrNone c.castType))
      fun _ => balanced_nameOrNone h.castType)
  have htag : ∀ tag ∈ some (nameOrNone c.tag), Balanced tag := by
    rintro _ ⟨⟩
    exact balanced_nameOrNone h.tag
  unfold Classification.helperSlot
  dsimp only
  split
  · exact ⟨hname, h.valueType, hname, nofun, hcast⟩
  · split
    · exact HelperSlot.isBalanced_buffer hname
    · exact HelperSlot.isBalanced_output hname h.valueType
  · exact ⟨hname, h.valueType, hname, htag, hobject⟩
  · exact ⟨hname, h.valueType, hname, htag, hobject⟩

/-! ## Parameters -/

namespace Parameter.IsBalanced

variable {p : Parameter}

theorem actualMatcher? (h : p.IsBalanced) {m : ActualMatcher}
    (hm : p.actualMatcher? = .ok (some m)) : m.IsBalanced := by
  unfold Parameter.actualMatcher? at hm
  split at hm
  · next o ho => exact (h.override o ho).actualMatcher? h.name (by simpa using hm)
  · next c _ hc =>
    obtain ⟨m', hm', heq⟩ := map_eq_ok_iff.mp hm
    cases heq
    exact (h.classification c hc).actualMatcher h.name hm'
  · cases hm

theorem helperSlot? (h : p.IsBalanced) {slot : HelperSlot}
    (hslot : p.helperSlot? = .ok (some slot)) : slot.IsBalanced := by
  unfold Parameter.helperSlot? at hslot
  split at hslot
  · cases hslot
  split at hslot
  · next o ho => exact (h.override o ho).helperSlot? h (by simpa using hslot)
  · next c _ hc =>
    cases hslot
    exact (h.classification c hc).helperSlot h.name
  · cases hslot

theorem declaration (h : p.IsBalanced) : Balanced p.declaration := by
  unfold Parameter.declaration
  split
  · exact h.typeSpelling
  · exact Spelling.balanced_declare h.typeSpelling h.name

end Parameter.IsBalanced

/-! ## Signatures -/

/-- All texts of the signature are balanced. -/
structure Signature.IsBalanced (sig : Signature) : Prop where
  qualifiedName : Balanced sig.qualifiedName
  helperName : Balanced sig.helperName
  namespaces : ∀ name ∈ sig.namespaces, Balanced name
  parameters : ∀ p ∈ sig.parameters, p.IsBalanced
  resultSpelling : Balanced sig.resultSpelling
  result : ∀ c ∈ sig.result, c.IsBalanced
  resultOverride : ∀ o ∈ sig.resultOverride, o.IsBalanced
  ownerName : ∀ name ∈ sig.ownerName, Balanced name

theorem ExceptionSpec.balanced_text (spec : ExceptionSpec) : Balanced spec.text := by
  cases spec <;> decide

namespace Signature.IsBalanced

variable {sig : Signature}

theorem owner (h : sig.IsBalanced) : Balanced sig.owner := balanced_getD h.ownerName (by decide)

theorem checked (h : sig.IsBalanced) : ∀ p ∈ sig.checked, p.IsBalanced :=
  fun p hp => h.parameters p (List.mem_filter.mp hp).1

theorem head (h : sig.IsBalanced) : Balanced sig.head := by
  have hparams : ∀ text ∈ sig.parameters.map (·.declaration) ++
      (if sig.isVariadic then ["..."] else []), Balanced text := by
    simp only [List.mem_append, List.mem_map]
    rintro text (⟨p, hp, rfl⟩ | htext)
    · exact (h.parameters p hp).declaration
    · exact forall_mem_ite (P := Balanced) (by decide) text htext
  unfold Signature.head
  refine (Balanced.append (balanced_call (.append ?_ h.qualifiedName)
    (Layout.balanced_commaSeparated hparams)) ?_).append ?_
  · split
    · exact h.resultSpelling.append (by decide)
    · exact h.resultSpelling.append (by decide)
    · decide
    · decide
  · split <;> decide
  · split
    · decide
    · exact .append (by decide) sig.exceptionSpec.balanced_text

theorem receiver? (h : sig.IsBalanced) : ∀ e ∈ sig.receiver?, e.IsBalanced := by
  unfold Signature.receiver?
  split
  · rintro _ ⟨⟩
    exact (Expr.isBalanced_base (by decide)).wrapIf fun _ => h.owner.append (by decide)
  · nofun

theorem readBack? (h : sig.IsBalanced) {readBack : Option ReadBack}
    (hr : sig.readBack? = .ok readBack) : ∀ r ∈ readBack, ∀ w ∈ r.wraps, w.IsBalanced := by
  unfold Signature.readBack? at hr
  split at hr
  · next o ho =>
    obtain ⟨kind, -, rfl⟩ := map_eq_ok_iff.mp hr
    rintro _ ⟨⟩
    exact List.forall_mem_singleton.mpr (h.resultOverride o ho).expr
  · next c _ hc =>
    obtain ⟨kind, -, rfl⟩ := map_eq_ok_iff.mp hr
    rintro _ ⟨⟩
    exact (h.result c hc).readBackWraps
  · cases hr
    nofun

/-- The mock of a balanced signature. -/
theorem mock (h : sig.IsBalanced) {m : Mock} (hm : sig.mock = .ok m)
    (hmatchers : List.Forall₂ (fun p a => p.actualMatcher? = .ok (some a)) sig.checked
      m.call.matchers) : m.IsBalanced := by
  obtain ⟨hhead, hname, hreceiver, -, hread⟩ := mock_eq_ok_iff.mp hm
  refine ⟨hhead ▸ h.head, hname ▸ h.qualifiedName, hreceiver ▸ h.receiver?, fun a ha => ?_,
    h.readBack? hread⟩
  obtain ⟨p, hp, hpa⟩ := exists_of_mem_of_forall₂ hmatchers ha
  exact (h.checked p hp).actualMatcher? hpa

theorem returnType? (h : sig.IsBalanced) {type? : Option String}
    (ht : sig.returnType? = .ok type?) : ∀ type ∈ type?, Balanced type := by
  unfold Signature.returnType? at ht
  split at ht
  · next o ho =>
    split at ht
    · next type htype =>
      cases ht
      rintro _ ⟨⟩
      exact (h.resultOverride o ho).expectType type htype
    · obtain ⟨kind, -, rfl⟩ := map_eq_ok_iff.mp ht
      rintro _ ⟨⟩
      exact kind.balanced_nativeType
  · next c _ hc =>
    cases ht
    rintro _ ⟨⟩
    exact (h.result c hc).valueType
  · cases ht
    nofun

theorem returnExpr? {e? : Option Expr} (he : sig.returnExpr? = .ok e?) :
    ∀ e ∈ e?, e.IsBalanced := by
  have hreturn : (Expr.mk Helper.returnValue []).IsBalanced := Expr.isBalanced_base (by decide)
  unfold Signature.returnExpr? at he
  split at he
  · cases he
    rintro _ ⟨⟩
    exact hreturn
  · obtain ⟨kind, -, rfl⟩ := map_eq_ok_iff.mp he
    rintro _ ⟨⟩
    exact (hreturn.wrapIf (w := .addressOf) fun _ => trivial).wrapIf fun _ =>
      kind.balanced_nativeType
  · cases he
    nofun

/-- The helpers of a balanced signature. -/
theorem helpers (h : sig.IsBalanced) {helpers : Helpers} (hhelpers : sig.helpers = .ok helpers)
    (hslots : List.Forall₂ (fun p slot => p.helperSlot? = .ok (some slot)) sig.checked
      helpers.slots) : helpers.IsBalanced := by
  obtain ⟨hheads, hexpr, hcall, -⟩ := helpers_eq_ok_iff.mp hhelpers
  obtain ⟨-, htype, hname, hnamespaces, howner, -⟩ := helperHeads_eq_ok_iff.mp hheads
  refine ⟨⟨hname ▸ h.helperName, hnamespaces ▸ h.namespaces, ?_, fun slot hslot => ?_,
    h.returnType? htype⟩, hcall ▸ h.qualifiedName, returnExpr? hexpr⟩
  · rw [howner]
    split
    · rintro _ ⟨⟩
      exact h.owner
    · nofun
  · obtain ⟨p, hp, hpslot⟩ := exists_of_mem_of_forall₂ hslots hslot
    exact (h.checked p hp).helperSlot? hpslot

end Signature.IsBalanced

/-! ## Declarations -/

/-- The names and types of the declaration and of the scopes around it have balanced spellings, and
the name of a destructor starts as it has to. -/
structure Site.IsBalanced (s : Site) : Prop where
  spelling : Balanced s.info.spelling
  tilde : s.routine = .destructor → startsWith s.info.spelling "~" = true
  scopes : ∀ scope ∈ s.enclosing, Balanced scope.spelling
  result : s.info.result.IsBalanced
  args : ∀ arg ∈ s.info.args, Balanced arg.spelling ∧ arg.type.IsBalanced

theorem Scope.balanced_names {scopes : List Scope} (h : ∀ scope ∈ scopes, Balanced scope.spelling) :
    ∀ name ∈ Scope.names scopes, Balanced name := by
  simp only [Scope.names, Scope.inUnit, List.mem_reverse, List.mem_map, List.mem_filter]
  rintro _ ⟨scope, ⟨hscope, -⟩, rfl⟩
  exact h scope ((List.takeWhile_sublist _).subset hscope)

theorem balanced_joinScopes {names : List String} {last : String}
    (hnames : ∀ name ∈ names, Balanced name) (hlast : Balanced last) :
    Balanced (joinScopes (names ++ [last])) := by
  refine .intercalate (by decide) ?_
  simp only [List.mem_append, List.mem_singleton]
  rintro name (hname | rfl)
  · exact hnames name hname
  · exact hlast

theorem balanced_toString (n : Nat) : Balanced (toString n) := by
  have hnone : brackets (toString n) = [] := by
    simp only [brackets, List.filter_eq_nil_iff, Bool.not_eq_true]
    exact fun c hc => not_isBracket_of (by decide) (isDigit_of_mem_toString hc)
  rw [balanced_iff_nested_brackets, hnone]
  exact .nil

theorem Argument.balanced_name {arg : Argument} (h : Balanced arg.spelling) (index : Nat) :
    Balanced (arg.name index) := by
  unfold Argument.name
  split
  · exact .append (by decide) (balanced_toString index)
  · exact h

theorem Argument.Collects.isBalanced {arg : Argument} {cfg : Config} {function : String}
    {index : Nat} {p : Parameter} (h : arg.Collects cfg function index p)
    (hname : Balanced arg.spelling) (htype : arg.type.IsBalanced)
    (hoverride : ∀ o ∈ p.override, o.IsBalanced) : p.IsBalanced where
  name := h.name ▸ arg.balanced_name hname index
  typeSpelling := h.typeSpelling ▸ htype.spelling
  classification c hc := by
    have hclass := h.classification
    rw [hc] at hclass
    split at hclass
    · cases hclass
    · obtain ⟨c', hc', heq⟩ := map_eq_ok_iff.mp hclass
      cases heq
      exact htype.classifyArgument hc'
  override := hoverride
  target s hs := by
    obtain ⟨target?, htarget, heq⟩ := map_eq_ok_iff.mp (h.target.trans (congrArg _ hs))
    obtain ⟨target, rfl, rfl⟩ := Option.map_eq_some_iff.mp heq
    exact (htype.target? htarget).spelling

namespace Site

variable {s : Site} {cfg : Config} {sig : Signature}

theorem IsBalanced.helperName (h : s.IsBalanced) : Balanced s.helperName := by
  unfold Site.helperName
  split
  · next hroutine =>
    -- Only the tilde is dropped, and it is no bracket.
    obtain ⟨rest, hrest⟩ := Option.isSome_iff_exists.mp (h.tilde hroutine)
    have hchars : s.info.spelling.toList = '~' :: rest := dropStart?_eq_some_iff.mp hrest
    have htilde : isBracket '~' = false := by decide
    have htail : Balanced (String.ofList rest) := by
      refine (balanced_congr ?_).mpr h.spelling
      simp [brackets, hchars, htilde]
    rw [hchars, List.tail_cons]
    exact htail.append (by decide)
  · exact h.spelling.append (by decide)
  · exact h.spelling

theorem IsBalanced.ownerName? (h : s.IsBalanced) : ∀ name ∈ s.ownerName?, Balanced name := by
  unfold Site.ownerName?
  split
  · nofun
  · next owner outer henclosing =>
    have hscopes := henclosing ▸ h.scopes
    rintro _ ⟨⟩
    exact balanced_joinScopes
      (Scope.balanced_names fun scope hscope => hscopes scope (List.mem_cons_of_mem _ hscope))
      (hscopes owner List.mem_cons_self)

/-- The texts of a collected signature come from the declaration and the overrides in use. -/
theorem Collects.isBalanced (h : s.Collects cfg sig) (hs : s.IsBalanced)
    (hparameters : ∀ p ∈ sig.parameters, ∀ o ∈ p.override, o.IsBalanced)
    (hresult : ∀ o ∈ sig.resultOverride, o.IsBalanced) : sig.IsBalanced where
  qualifiedName := by
    rw [h.qualifiedName]
    exact balanced_joinScopes (Scope.balanced_names hs.scopes) hs.spelling
  helperName := h.helperName ▸ hs.helperName
  namespaces := h.namespaces ▸ Scope.balanced_names hs.scopes
  parameters p hp := by
    obtain ⟨⟨arg, index⟩, harg, hcollects⟩ := exists_of_mem_of_forall₂ h.forall₂_parameters hp
    obtain ⟨hname, htype⟩ := hs.args arg (List.fst_mem_of_mem_zipIdx harg)
    exact hcollects.isBalanced hname htype (hparameters p hp)
  resultSpelling := by
    rw [h.resultSpelling]
    split
    · exact hs.result.spelling
    · decide
  result c hc := hs.result.classifyResult (h.classifyResult_eq hc)
  resultOverride := hresult
  ownerName name hname := by
    have ho := h.ownerName
    unfold owner? at ho
    split at ho
    · simp only [Report.result_pure, Except.ok.injEq] at ho
      simp [← ho] at hname
    split at ho
    · next owner howner =>
      simp only [Report.result_pure, Except.ok.injEq] at ho
      exact hs.ownerName? name (howner.trans (ho.trans hname))
    · simp at ho

end Site

/-- All code for a declaration is well bracketed: if every spelling of the declaration, its types
and its scopes is balanced, and so is every override in use, then the texts are there and are
balanced. -/
theorem code_is_well_bracketed {underlying : Bool} {parameterOptions typeOptions : List String}
    {cfg : Config} (hcfg : Config.build underlying parameterOptions typeOptions = .ok cfg)
    {s : Site} {sig : Signature} (hsig : (s.signature cfg).result = .ok sig) (hs : s.IsBalanced)
    (hparameters : ∀ p ∈ sig.parameters, ∀ o ∈ p.override, o.IsBalanced)
    (hresult : ∀ o ∈ sig.resultOverride, o.IsBalanced) :
    ∃ mock prototypes implementations, sig.mockText = .ok mock ∧
      sig.prototypesText = .ok prototypes ∧ sig.implementationsText = .ok implementations ∧
      Balanced mock ∧ Balanced prototypes ∧ Balanced implementations := by
  have collects := Site.collects_of_signature hsig
  have sound := collects.sound (Config.sound_of_build hcfg)
  have balanced := collects.isBalanced hs hparameters hresult
  obtain ⟨mock, hmock, hmatchers⟩ := sound.exists_mock
  obtain ⟨helpers, hhelpers, hslots⟩ := sound.exists_helpers
  obtain ⟨hheads, -⟩ := Signature.helpers_eq_ok_iff.mp hhelpers
  have balancedHelpers := balanced.helpers hhelpers hslots
  refine ⟨mock.render, helpers.prototypes, helpers.implementations, ?_, ?_, ?_,
    (balanced.mock hmock hmatchers).render, balancedHelpers.heads.prototypes,
    balancedHelpers.implementations⟩
  · simp [Signature.mockText, hmock]
  · simp [Signature.prototypesText, hheads]
  · simp [Signature.implementationsText, hhelpers]

/-- `void g(void (*cb)(int), char data[4])`, for closed statements. -/
def Site.declarators : Site where
  routine := .function
  info :=
    { kind := .routine .function, spelling := "g", file := some "c.hpp"
      result := { kind := .void, spelling := "void" }
      args :=
        [{ spelling := "cb"
           type :=
            { kind := .pointer, spelling := "void (*)(int)"
              pointee? := some { kind := .function, spelling := "void (int)" } } },
         { spelling := "data"
           type :=
            { kind := .constantArray, spelling := "char[4]"
              element? := some { kind := .plainSignedChar, spelling := "char" } } }] }
  enclosing := [.wholeUnit]

theorem Site.isBalanced_declarators : Site.declarators.IsBalanced := by
  have hleaf {kind : TypeKind} {spelling : String} (h : Balanced spelling) :
      CType.IsBalanced { kind, spelling } :=
    .intro h nofun nofun nofun nofun
  have hpointer : CType.IsBalanced
      { kind := .pointer, spelling := "void (*)(int)"
        pointee? := some { kind := .function, spelling := "void (int)" } } := by
    refine .intro (by decide) nofun ?_ nofun nofun
    rintro _ ⟨⟩
    exact hleaf (by decide)
  have harray : CType.IsBalanced
      { kind := .constantArray, spelling := "char[4]"
        element? := some { kind := .plainSignedChar, spelling := "char" } } := by
    refine .intro (by decide) nofun nofun nofun ?_
    rintro _ ⟨⟩
    exact hleaf (by decide)
  exact ⟨by decide, nofun, by decide, hleaf (by decide),
    forall_mem_pair ⟨by decide, hpointer⟩ ⟨by decide, harray⟩⟩

/-- The brackets of an override belong together only around its place to fill. -/
theorem code_is_well_bracketed_declarators :
    ∃ cfg sig mock, Config.build false ["g#cb=Pointer/wrap($)[0]"] [] = .ok cfg ∧
      (Site.declarators.signature cfg).result = .ok sig ∧ sig.mockText = .ok mock ∧
      Balanced mock := by
  obtain ⟨cfg, hcfg⟩ : ∃ cfg, Config.build false ["g#cb=Pointer/wrap($)[0]"] [] = .ok cfg :=
    ⟨_, rfl⟩
  obtain ⟨sig, hsig, hparameters, hresult⟩ :
      ∃ sig, (Site.declarators.signature cfg).result = .ok sig ∧
        (∀ p ∈ sig.parameters, ∀ o ∈ p.override, o.IsBalanced) ∧
        ∀ o ∈ sig.resultOverride, o.IsBalanced := by
    cases hcfg
    exact ⟨_, rfl, by decide, by decide⟩
  obtain ⟨mock, -, -, hmock, -, -, hbalanced, -⟩ :=
    code_is_well_bracketed hcfg hsig Site.isBalanced_declarators hparameters hresult
  exact ⟨cfg, sig, mock, hcfg, hsig, hmock, hbalanced⟩

end HeaderMock

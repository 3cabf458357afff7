import HeaderMock.Generate
import HeaderMock.Proofs.Rendering.Parts

/-!
# Mock and helpers agree

The mock reports a call under the name that the helpers expect, and reports each parameter by the
method that the helpers check it by. Otherwise no expected call could ever be matched.

## Main definitions

* `MethodPair`: the methods that report and check one parameter.
* `Parameter.Agrees`: the report and the check of a parameter fit together.
* `Statement.opened?`, `Statement.matcher?`: what a statement of a helper expects.

## Main statements

* `Parameter.Sound.agrees`: the step, for one parameter.
* `mock_agrees_with_helpers`: all of it, for every collected signature.
-/

namespace HeaderMock

/-- The methods that report and check one parameter. -/
inductive MethodPair : String → String → Prop where
  | value (kind : ValueKind) :
      MethodPair ("with" ++ kind.apiName ++ "Parameter") ("with" ++ kind.apiName ++ "Parameter")
  | output : MethodPair "withOutputParameter" "withOutputParameterReturning"
  | inputOfType : MethodPair "withParameterOfType" "withParameterOfType"
  | outputOfType : MethodPair "withOutputParameterOfType" "withOutputParameterOfTypeReturning"
  | memoryBuffer : MethodPair "withMemoryBufferParameter" "withMemoryBufferParameter"

/-- A report and a check of the parameter `name` that fit together. -/
structure Corresponds (name : String) (a : ActualMatcher) (x : ExpectedMatcher) : Prop where
  actual : a.parameter = name
  expected : x.parameter = name
  tag : a.tag? = x.tag?
  method : MethodPair a.method x.method

/-- The report `a` and the check `x` are those of the parameter and fit together. Where the
parameter is classified as a value, both cast it to the same type if any: the mock casts the
parameter or its address, the helpers what their argument holds. -/
structure Parameter.Agrees (p : Parameter) (a : ActualMatcher) (x : ExpectedMatcher) : Prop where
  reported : p.actualMatcher? = .ok (some a)
  checked : ∃ slot, p.helperSlot? = .ok (some slot) ∧ slot.matcher = x
  corresponds : Corresponds p.name a x
  cast : ∀ c kind, p.override = none → p.classification = some c → c.kind = .value kind →
    a.exprs = [{ base := p.name
                 wraps := (if c.byAddress then [.addressOf] else []) ++
                   c.castType.toList.map .staticCast }] ∧
    x.exprs = [{ base := p.name, wraps := .getValue :: c.castType.toList.map .staticCast }]

/-! ## One parameter -/

theorem Override.corresponds {o : Override} {p : Parameter} {a : ActualMatcher} {slot : HelperSlot}
    (ha : o.actualMatcher? p.name = some a) (hs : o.helperSlot? p = some slot) :
    Corresponds p.name a slot.matcher := by
  unfold Override.actualMatcher? at ha
  unfold Override.helperSlot? at hs
  cases hk : o.kind with
  | value kind =>
    simp only [hk, Option.some.injEq] at ha hs
    subst ha hs
    exact ⟨rfl, rfl, rfl, .value kind⟩
  | output =>
    simp only [hk, Option.some.injEq] at ha hs
    subst ha
    cases ht : o.expectType with
    | none =>
      simp only [ht, Option.some.injEq] at hs
      subst hs
      exact ⟨rfl, rfl, rfl, .output⟩
    | some type =>
      simp only [ht, Option.some.injEq] at hs
      subst hs
      exact ⟨rfl, rfl, rfl, .output⟩
  | inputOfType tag =>
    simp only [hk, Option.some.injEq] at ha hs
    subst ha hs
    exact ⟨rfl, rfl, rfl, .inputOfType⟩
  | outputOfType tag =>
    simp only [hk, Option.some.injEq] at ha hs
    subst ha hs
    exact ⟨rfl, rfl, rfl, .outputOfType⟩
  | inputPod =>
    simp only [hk, Option.some.injEq] at ha hs
    subst ha hs
    exact ⟨rfl, rfl, rfl, .memoryBuffer⟩
  | outputPod =>
    simp only [hk, Option.some.injEq] at ha hs
    subst ha hs
    exact ⟨rfl, rfl, rfl, .output⟩
  | memoryBuffer size =>
    simp only [hk, Option.some.injEq] at ha hs
    subst ha hs
    exact ⟨rfl, rfl, rfl, .memoryBuffer⟩
  | skip => simp [hk] at ha

theorem Classification.corresponds {c : Classification} {name : String} {a : ActualMatcher}
    (ha : c.actualMatcher name = .ok a) : Corresponds name a (c.helperSlot name).matcher := by
  unfold Classification.actualMatcher at ha
  unfold Classification.helperSlot
  cases hk : c.kind with
  | value kind =>
    simp only [hk, Except.ok.injEq] at ha
    subst ha
    exact ⟨rfl, rfl, rfl, .value kind⟩
  | output =>
    simp only [hk, Except.ok.injEq] at ha
    subst ha
    cases c.sized <;> exact ⟨rfl, rfl, rfl, .output⟩
  | inputOfType =>
    simp only [hk, Except.ok.injEq] at ha
    subst ha
    exact ⟨rfl, rfl, rfl, .inputOfType⟩
  | outputOfType =>
    simp only [hk, Except.ok.injEq] at ha
    subst ha
    exact ⟨rfl, rfl, rfl, .outputOfType⟩
  | _ => simp [hk] at ha

/-- A required cast and its type come together, so that the wraps of either side are those of the
type. -/
theorem Classification.SuitsArgument.exprs_of_value {c : Classification} (h : c.SuitsArgument)
    {name : String} {kind : ValueKind} {a : ActualMatcher} (hk : c.kind = .value kind)
    (ha : c.actualMatcher name = .ok a) :
    a.exprs = [{ base := name
                 wraps := (if c.byAddress then [.addressOf] else []) ++
                   c.castType.toList.map .staticCast }] ∧
    (c.helperSlot name).matcher.exprs =
      [{ base := name, wraps := .getValue :: c.castType.toList.map .staticCast }] := by
  have hcast := h.cast
  simp only [Classification.actualMatcher, hk, Except.ok.injEq] at ha
  subst ha
  simp only [Classification.helperSlot, hk, ActualMatcher.exprs, ExpectedMatcher.exprs,
    Helper.argument, Expr.wrapIf, Expr.wrap]
  cases ht : c.castType with
  | none =>
    have hr : c.castRequired = false := by simpa [ht] using hcast
    cases c.byAddress <;> simp [hr]
  | some type =>
    have hr : c.castRequired = true := by simpa [ht] using hcast
    cases c.byAddress <;> simp [hr, nameOrNone]

/-- The report and the check of a parameter fit together. -/
theorem Parameter.Sound.agrees {p : Parameter} {a : ActualMatcher} {slot : HelperSlot} (h : p.Sound)
    (ha : p.actualMatcher? = .ok (some a)) (hs : p.helperSlot? = .ok (some slot)) :
    p.Agrees a slot.matcher := by
  have hskip : p.isSkipped = false := by
    cases hskip : p.isSkipped with
    | false => rfl
    | true => simp [Parameter.helperSlot?, hskip] at hs
  refine ⟨ha, ⟨slot, hs, rfl⟩, ?_, ?_⟩
  · cases h with
    | overridden o ho =>
      simp only [Parameter.actualMatcher?, ho, Except.ok.injEq] at ha
      have hs' : o.helperSlot? p = some slot := by
        simpa [Parameter.helperSlot?, hskip, ho] using hs
      exact Override.corresponds ha hs'
    | classified c ho hc =>
      have ha' : c.actualMatcher p.name = .ok a := by
        simpa [Parameter.actualMatcher?, ho, hc] using ha
      obtain rfl : c.helperSlot p.name = slot := by
        simpa [Parameter.helperSlot?, hskip, ho, hc] using hs
      exact Classification.corresponds ha'
  · intro c kind ho hc hk
    have ha' : c.actualMatcher p.name = .ok a := by
      simpa [Parameter.actualMatcher?, ho, hc] using ha
    obtain rfl : c.helperSlot p.name = slot := by
      simpa [Parameter.helperSlot?, hskip, ho, hc] using hs
    cases h with
    | overridden o ho' => simp [ho] at ho'
    | classified c' _ hc' hsuits =>
      obtain rfl : c = c' := Option.some.inj (hc.symm.trans hc')
      exact hsuits.exprs_of_value hk ha'

/-! ## The whole call -/

namespace Statement

/-- The name of the call that a statement starts to expect. -/
def opened? : Statement → Option String
  | .openCall name => some name
  | _ => none

/-- The check that a statement makes, on whatever condition. -/
def matcher? : Statement → Option ExpectedMatcher
  | .check matcher | .checkUnlessIgnored _ matcher | .checkOrFlag _ matcher => some matcher
  | _ => none

end Statement

namespace Helpers

variable (h : Helpers)

@[simp, grind =] theorem matcher?_checkSlot (s : HelperSlot) :
    (h.checkSlot s).matcher? = some s.matcher := by
  unfold checkSlot
  split
  · rfl
  · split <;> rfl

@[simp, grind =] theorem opened?_checkSlot (s : HelperSlot) : (h.checkSlot s).opened? = none := by
  unfold checkSlot
  split
  · rfl
  · split <;> rfl

/-- What is read off the opening of the call, the checks and the answer of a helper. -/
theorem filterMap_body {β : Type} (f : Statement → Option β) (hflag : f .declareFlag = none)
    (hobject : ∀ owner, f (.onObject owner) = none) (hignore : f .ignoreOthers = none)
    (hflagged : f .ignoreOthersIfFlagged = none) (hfinish : f .finish = none) :
    h.body.filterMap f =
      (f (.openCall h.call)).toList ++ (h.slots.filterMap fun s => f (h.checkSlot s)) ++
        h.returnExpr?.toList.filterMap fun e => f (.andReturn e) := by
  have declared : (if h.tracksIgnored then [Statement.declareFlag] else []).filterMap f = [] := by
    split <;> simp [hflag]
  have object : (h.owner?.toList.map Statement.onObject).filterMap f = [] := by
    cases h.owner? <;> simp [hobject]
  have others : (if h.isSkipping then [Statement.ignoreOthers]
      else if h.tracksIgnored then [.ignoreOthersIfFlagged] else []).filterMap f = [] := by
    split
    · simp [hignore]
    · split <;> simp [hflagged]
  have opened : [Statement.openCall h.call].filterMap f = (f (.openCall h.call)).toList := by
    cases hf : f (.openCall h.call) <;> simp [hf]
  simp only [body, List.filterMap_append, declared, opened, object, others,
    List.filterMap_map, Function.comp_def]
  simp [hfinish]

@[simp, grind =] theorem filterMap_opened?_body :
    h.body.filterMap Statement.opened? = [h.call] := by
  rw [h.filterMap_body Statement.opened? rfl (fun _ => rfl) rfl rfl rfl]
  simp only [opened?_checkSlot]
  simp [Statement.opened?]

@[simp, grind =] theorem filterMap_matcher?_body :
    h.body.filterMap Statement.matcher? = h.slots.map (·.matcher) := by
  rw [h.filterMap_body Statement.matcher? rfl (fun _ => rfl) rfl rfl rfl]
  simp only [matcher?_checkSlot]
  simp [Statement.matcher?]

end Helpers

/-- The mock of a collected signature reports the call under the name that the helpers expect. It
reports as many parameters as the helpers check, which are those that are not skipped, in their
order, and each report fits its check. -/
theorem mock_agrees_with_helpers {underlying : Bool} {parameterOptions typeOptions : List String}
    {cfg : Config} (hcfg : Config.build underlying parameterOptions typeOptions = .ok cfg)
    {s : Site} {sig : Signature} (hsig : (s.signature cfg).result = .ok sig) :
    ∃ mock helpers, sig.mock = .ok mock ∧ sig.helpers = .ok helpers ∧
      sig.mockText = .ok mock.render ∧ sig.implementationsText = .ok helpers.implementations ∧
      mock.call.name = sig.qualifiedName ∧
      helpers.body.filterMap Statement.opened? = [sig.qualifiedName] ∧
      mock.call.matchers.length = sig.checked.length ∧
      (helpers.body.filterMap Statement.matcher?).length = sig.checked.length ∧
      ∀ (i : Nat) (p : Parameter), sig.checked[i]? = some p →
        ∃ a x, mock.call.matchers[i]? = some a ∧
          (helpers.body.filterMap Statement.matcher?)[i]? = some x ∧ p.Agrees a x := by
  have sound := Site.sound_of_signature (Config.sound_of_build hcfg) hsig
  obtain ⟨mock, hm, reports⟩ := sound.exists_mock
  obtain ⟨helpers, hh, slots⟩ := sound.exists_helpers
  obtain ⟨-, hname, -⟩ := Signature.mock_eq_ok_iff.mp hm
  obtain ⟨-, -, hcall, -⟩ := Signature.helpers_eq_ok_iff.mp hh
  refine ⟨mock, helpers, hm, hh, by simp [Signature.mockText, hm],
    by simp [Signature.implementationsText, hh], hname,
    by rw [helpers.filterMap_opened?_body, hcall], reports.length_eq.symm, ?_, ?_⟩
  · rw [helpers.filterMap_matcher?_body, List.length_map, slots.length_eq]
  · intro i p hp
    obtain ⟨a, ha, hreport⟩ := getElem?_of_forall₂ reports hp
    obtain ⟨slot, hslot, hcheck⟩ := getElem?_of_forall₂ slots hp
    have hmem : p ∈ sig.parameters := List.mem_of_mem_filter (List.mem_of_getElem? hp)
    refine ⟨a, slot.matcher, ha, ?_, (sound.parameters p hmem).agrees hreport hcheck⟩
    simp [hslot]

/-- The specimen has four checked parameters; its enumerator is cast on both sides. -/
theorem mock_agrees_with_helpers_specimen :
    ∃ cfg sig mock helpers p a x, Config.build false Config.specimenOptions [] = .ok cfg ∧
      (Site.specimen.signature cfg).result = .ok sig ∧ sig.mock = .ok mock ∧
      sig.helpers = .ok helpers ∧ sig.checked.length = 4 ∧ sig.checked[0]? = some p ∧
      mock.call.matchers[0]? = some a ∧
      (helpers.body.filterMap Statement.matcher?)[0]? = some x ∧ p.Agrees a x := by
  obtain ⟨cfg, hcfg⟩ : ∃ cfg, Config.build false Config.specimenOptions [] = .ok cfg := ⟨_, rfl⟩
  obtain ⟨sig, p, hsig, hlength, hp⟩ : ∃ sig p, (Site.specimen.signature cfg).result = .ok sig ∧
      sig.checked.length = 4 ∧ sig.checked[0]? = some p := by
    cases hcfg
    exact ⟨_, _, rfl, rfl, rfl⟩
  obtain ⟨mock, helpers, hm, hh, -, -, -, -, -, -, hall⟩ := mock_agrees_with_helpers hcfg hsig
  obtain ⟨a, x, ha, hx, hagree⟩ := hall 0 p hp
  exact ⟨cfg, sig, mock, helpers, p, a, x, hcfg, hsig, hm, hh, hlength, hp, ha, hx, hagree⟩

end HeaderMock

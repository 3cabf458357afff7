import HeaderMock.Proofs.Helper.Forwarding

/-!
# Parameters that capture a called function

Each generated function calls another one by its name: the helper for a single call calls the other
helper, and the other helper and the mock call `mock`. The names of their parameters come from the
declaration, and nothing keeps them apart from the name that is called.

## Main definitions

* `Callable`: a generated function, as far as names go.
* `Callable.IsHygienic`: the call in its body means the function that it should.
* `Helpers.forwarding`, `Helpers.expecting`, `Signature.mocking`: the three functions.

## Main statements

* `HelperHeads.mem_names_iff`: the names that a helper declares.
* `bodies_hygienic_iff`: which names of parameters leave the three functions hygienic.
* `parameters_capture_calls`: a declaration for which none of them is.
-/

namespace HeaderMock

/-- A generated function, as far as names go: what its parameters are called, and the name of the
function that its body calls. -/
structure Callable where
  declared : List String
  called : String
  deriving Repr, DecidableEq

/-- No parameter has the name of the function that is called. -/
def Callable.IsHygienic (f : Callable) : Prop := f.called ∉ f.declared

instance (f : Callable) : Decidable f.IsHygienic := inferInstanceAs (Decidable (_ ∉ _))

/-- The name that the parameter has in the head of the mock; a skipped one has none. -/
def Parameter.declaredName? (p : Parameter) : Option String :=
  if p.isSkipped then none else some p.name

/-- The helper for a single call, which calls the other helper of the same name. -/
def Helpers.forwarding (h : Helpers) : Callable where
  declared := (h.formals false).map (·.name)
  called := h.name

/-- The helper for a number of calls, which opens the expected call on `mock()`. -/
def Helpers.expecting (h : Helpers) : Callable where
  declared := (h.formalsMany false).map (·.name)
  called := "mock"

/-- The mock, which reports its call on `mock()`. -/
def Signature.mocking (sig : Signature) : Callable where
  declared := sig.parameters.filterMap Parameter.declaredName?
  called := "mock"

/-! ## Declared names -/

theorem Parameter.declaration_eq (p : Parameter) :
    p.declaration = p.declaredName?.elim p.typeSpelling (Spelling.declare p.typeSpelling) := by
  unfold declaration declaredName?
  cases p.isSkipped <;> rfl

@[simp, grind =] theorem Signature.filterMap_declaredName? (sig : Signature) :
    sig.parameters.filterMap Parameter.declaredName? = sig.checked.map (·.name) := by
  unfold checked
  induction sig.parameters with
  | nil => rfl
  | cons p ps ih =>
    cases hs : p.isSkipped with
    | true => simpa [Parameter.declaredName?, hs] using ih
    | false => simpa [Parameter.declaredName?, hs] using ih

/-- The names that the parameters of a helper have. -/
theorem HelperHeads.mem_names_iff {h : HelperHeads} {ps : List Parameter}
    (hslots : List.Forall₂ (fun p slot => p.helperSlot? = .ok (some slot)) ps h.slots)
    {name : String} :
    name ∈ (h.formals false).map (·.name) ↔
      (h.owner?.isSome ∧ name = "__object__") ∨
        (∃ p ∈ ps, name = p.name ∨ p.isSizedBuffer = true ∧ name = "__sizeof_" ++ p.name) ∨
        (h.returnType?.isSome ∧ name = "__return__") := by
  rw [h.map_name_formals, HelperHeads.forwarded, flatMap_names_of_forall₂ hslots]
  simp only [List.cons_append, List.tail_cons, List.mem_append, List.mem_flatMap,
    Parameter.mem_forwarded_iff, or_assoc]
  cases h.owner? <;> cases h.returnType? <;> simp [Helper.object, Helper.returnValue]

/-- Only a parameter of the declaration can be called `mock`. -/
theorem HelperHeads.mock_mem_names_iff {h : HelperHeads} {ps : List Parameter}
    (hslots : List.Forall₂ (fun p slot => p.helperSlot? = .ok (some slot)) ps h.slots) :
    "mock" ∈ (h.formalsMany false).map (·.name) ↔ ∃ p ∈ ps, p.name = "mock" := by
  have hsize (name : String) : "mock" ≠ "__sizeof_" ++ name := by
    simp [← String.toList_inj]
  rw [HelperHeads.formalsMany, List.map_cons, List.mem_cons, HelperHeads.mem_names_iff hslots]
  constructor
  · rintro (hname | ⟨-, hname⟩ | ⟨p, hp, hname | ⟨-, hname⟩⟩ | ⟨-, hname⟩)
    · exact absurd hname (by decide)
    · exact absurd hname (by decide)
    · exact ⟨p, hp, hname.symm⟩
    · exact absurd hname (hsize p.name)
    · exact absurd hname (by decide)
  · rintro ⟨p, hp, hname⟩
    exact .inr (.inr (.inl ⟨p, hp, .inl hname.symm⟩))

/-! ## Called names -/

/-- The helper for a number of calls opens the expected call on what its call of `mock` gives. -/
theorem Helpers.exists_openCall (h : Helpers) :
    ∃ line ∈ h.body.map Statement.render, ∃ rest,
      line = "MockExpectedCall& __expectedCall__ = " ++ h.expecting.called ++ "()" ++ rest := by
  have hmem : Statement.openCall h.call ∈ h.body := by simp [body]
  refine ⟨_, List.mem_map_of_mem hmem,
    methodCall "expectNCalls" [Helper.numCalls, quoted h.call] ++ ";", ?_⟩
  rw [Statement.render, String.append_assoc]
  rfl

/-- The mock reports its call on what its call of `mock` gives. -/
theorem ActualCall.exists_render (c : ActualCall) (sig : Signature) :
    ∃ rest, c.render = sig.mocking.called ++ "()" ++ rest := by
  unfold ActualCall.render
  simp only [String.append_assoc]
  exact ⟨_, rfl⟩

/-! ## Hygiene -/

/-- The sign in the helpers' names of constructors and destructors. -/
theorem Site.dollar_mem_helperName {s : Site}
    (h : s.routine = .constructor ∨ s.routine = .destructor) : '$' ∈ s.helperName.toList := by
  rcases h with h | h <;> simp [helperName, h]

/-- Which names leave the code of a collected signature hygienic. The helper for a single call is so
unless its own name is that of a parameter, of the size of one, or of the object or the value to
return; for constructors and destructors this takes a name with `$`. The helper for a number of
calls and the mock are so unless a parameter that is not skipped is called `mock`. -/
theorem bodies_hygienic_iff {underlying : Bool} {parameterOptions typeOptions : List String}
    {cfg : Config} (hcfg : Config.build underlying parameterOptions typeOptions = .ok cfg)
    {s : Site} {sig : Signature} (hsig : (s.signature cfg).result = .ok sig) :
    ∃ mock helpers, sig.mock = .ok mock ∧ sig.helpers = .ok helpers ∧
      sig.mockText = .ok mock.render ∧ sig.implementationsText = .ok helpers.implementations ∧
      (∃ rest, mock.call.render = sig.mocking.called ++ "()" ++ rest) ∧
      (∀ p ∈ sig.parameters, p.declaration =
        p.declaredName?.elim p.typeSpelling (Spelling.declare p.typeSpelling)) ∧
      (∃ line ∈ helpers.body.map Statement.render, ∃ rest,
        line =
          "MockExpectedCall& __expectedCall__ = " ++ helpers.expecting.called ++ "()" ++ rest) ∧
      helpers.forwarding.called = s.helperName ∧
      (helpers.forwarding.IsHygienic ↔
        (∀ p ∈ sig.checked, p.name ≠ s.helperName ∧
          (p.isSizedBuffer = true → "__sizeof_" ++ p.name ≠ s.helperName)) ∧
        (sig.isMethod = true → s.helperName ≠ "__object__") ∧
        (sig.returns = true → s.helperName ≠ "__return__")) ∧
      (helpers.expecting.IsHygienic ↔ ∀ p ∈ sig.checked, p.name ≠ "mock") ∧
      (sig.mocking.IsHygienic ↔ ∀ p ∈ sig.checked, p.name ≠ "mock") ∧
      (s.routine = .constructor ∨ s.routine = .destructor →
        (∀ p ∈ sig.checked, '$' ∉ p.name.toList) → helpers.forwarding.IsHygienic) := by
  have collects := Site.collects_of_signature hsig
  have sound := collects.sound (Config.sound_of_build hcfg)
  obtain ⟨mock, hmock, -⟩ := sound.exists_mock
  obtain ⟨helpers, hhelpers, hslots⟩ := sound.exists_helpers
  obtain ⟨hheads, -⟩ := Signature.helpers_eq_ok_iff.mp hhelpers
  obtain ⟨-, htype, hname, -, howner, -⟩ := Signature.helperHeads_eq_ok_iff.mp hheads
  have hcalled : helpers.name = s.helperName := hname.trans collects.helperName
  have hobject : helpers.owner?.isSome = sig.isMethod := by
    rw [howner]
    cases sig.isMethod <;> rfl
  have hforwarding : helpers.forwarding.IsHygienic ↔
      (∀ p ∈ sig.checked, p.name ≠ s.helperName ∧
        (p.isSizedBuffer = true → "__sizeof_" ++ p.name ≠ s.helperName)) ∧
      (sig.isMethod = true → s.helperName ≠ "__object__") ∧
      (sig.returns = true → s.helperName ≠ "__return__") := by
    rw [Callable.IsHygienic, Helpers.forwarding, HelperHeads.mem_names_iff hslots, hobject,
      Signature.isSome_of_returnType? htype, hcalled]
    grind
  refine ⟨mock, helpers, hmock, hhelpers, by simp [Signature.mockText, hmock],
    by simp [Signature.implementationsText, hhelpers], mock.call.exists_render sig,
    fun p _ => p.declaration_eq, helpers.exists_openCall, hcalled, hforwarding, ?_, ?_, ?_⟩
  · rw [Callable.IsHygienic, Helpers.expecting, HelperHeads.mock_mem_names_iff hslots]
    simp
  · rw [Callable.IsHygienic, Signature.mocking, sig.filterMap_declaredName?]
    simp
  · intro hroutine hplain
    have hdollar := Site.dollar_mem_helperName hroutine
    rw [hforwarding]
    refine ⟨fun p hp => ⟨fun heq => ?_, fun _ heq => ?_⟩, fun _ heq => ?_, fun _ heq => ?_⟩
    · exact hplain p hp (heq ▸ hdollar)
    · rw [← heq] at hdollar
      exact hplain p hp (by simpa using hdollar)
    · rw [heq] at hdollar
      exact absurd hdollar (by decide)
    · rw [heq] at hdollar
      exact absurd hdollar (by decide)

/-- The code for the specimen is hygienic. -/
theorem bodies_hygienic_iff_specimen :
    ∃ cfg sig helpers, Config.build false Config.specimenOptions [] = .ok cfg ∧
      (Site.specimen.signature cfg).result = .ok sig ∧ sig.helpers = .ok helpers ∧
      helpers.forwarding.IsHygienic ∧ helpers.expecting.IsHygienic ∧ sig.mocking.IsHygienic := by
  obtain ⟨cfg, hcfg⟩ : ∃ cfg, Config.build false Config.specimenOptions [] = .ok cfg := ⟨_, rfl⟩
  obtain ⟨sig, hsig, hmock, hname⟩ : ∃ sig, (Site.specimen.signature cfg).result = .ok sig ∧
      (∀ p ∈ sig.checked, p.name ≠ "mock") ∧
      ∀ p ∈ sig.checked, p.name ≠ "m" ∧
        (p.isSizedBuffer = true → "__sizeof_" ++ p.name ≠ "m") := by
    cases hcfg
    exact ⟨_, rfl, by decide, by decide⟩
  obtain ⟨-, helpers, -, hhelpers, -, -, -, -, -, -, hforwarding, hexpecting, hmocking, -⟩ :=
    bodies_hygienic_iff hcfg hsig
  exact ⟨cfg, sig, helpers, hcfg, hsig, hhelpers,
    hforwarding.mpr ⟨hname, fun _ => by decide, fun _ => by decide⟩, hexpecting.mpr hmock,
    hmocking.mpr hmock⟩

/-- `void f(int f, int mock)` -/
def Site.capturing : Site where
  routine := .function
  info :=
    { kind := .routine .function, spelling := "f", file := some "c.hpp"
      result := { kind := .void, spelling := "void" }
      args :=
        [{ spelling := "f", type := { kind := .int, spelling := "int" } },
         { spelling := "mock", type := { kind := .int, spelling := "int" } }] }
  enclosing := [.wholeUnit]

/-- A parameter with the name of its function captures the call of the helper for a single call, and
a parameter called `mock` those of the other helper and of the mock. -/
theorem parameters_capture_calls :
    ∃ sig helpers, (Site.capturing.signature {}).result = .ok sig ∧ sig.helpers = .ok helpers ∧
      ¬helpers.forwarding.IsHygienic ∧ ¬helpers.expecting.IsHygienic ∧ ¬sig.mocking.IsHygienic ∧
      sig.mockText = .ok ("void f(int f, int mock)\n\x7b\n" ++
        "    mock().actualCall(\"f\").withIntParameter(\"f\", f)" ++
        ".withIntParameter(\"mock\", mock);\n\x7d\n") :=
  ⟨_, _, rfl, rfl, by decide, by decide, by decide, by decide +kernel⟩

end HeaderMock

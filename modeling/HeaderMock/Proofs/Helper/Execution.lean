import HeaderMock.Generate
import HeaderMock.Proofs.Rendering.Parts

/-!
# What a helper does

The statements of a helper for a number of calls, as code with conditions and one variable, and what
running this code does to the expected call. Which arguments are ignored is decided by their names,
as the code asks them by name.

## Main definitions

* `Helper.Code`: the code of a statement; `Statement.code` reads a statement as code.
* `Helper.Frame`: the variables of a running helper, and what it has done to the expected call.
* `Helper.Frame.IsOpen`: the call is there, and the helper has not returned.
* `Helper.Code.exec`, `Helper.execAll`: one statement, and one after another.

## Main statements

* `Statement.text_code`: code and statement have the same text.
* `Helpers.exec_checkSlot`: the step, for the check of one parameter.
* `Helpers.execAll_body`: the run of the whole body.
* `helper_run`: what the helper of a collected signature does.
-/

namespace HeaderMock

namespace Helper

/-! ## Code -/

/-- What is done to the expected call. -/
inductive CallStep where
  | onObject (e : Expr)
  | check (matcher : ExpectedMatcher)
  | andReturn (e : Expr)
  | ignoreOthers
  deriving Repr, DecidableEq

/-- The object of the class `owner` that calls are expected on. -/
def objectStep (owner : String) : CallStep :=
  .onObject { base := object, wraps := [.getValue, .constCast (owner ++ "*")] }

def CallStep.text : CallStep → String
  | .onObject e => Statement.onCall (methodCall "onObject" [e.render])
  | .check matcher => Statement.onCall matcher.render
  | .andReturn e => Statement.onCall (methodCall "andReturnValue" [e.render])
  | .ignoreOthers => Statement.onCall (methodCall "ignoreOtherParameters" [])

/-- What is done without a condition: the flag is raised, or something is done to the call. -/
inductive Action where
  | raiseFlag
  | call (step : CallStep)
  deriving Repr, DecidableEq

def Action.text : Action → String
  | .raiseFlag => Helper.ignoreOthers ++ " = true;"
  | .call step => step.text

inductive Guard where
  | ignored (arg : String)
  | notIgnored (arg : String)
  | flagged
  deriving Repr, DecidableEq

def Guard.text : Guard → String
  | .ignored arg => arg ++ ".isIgnored()"
  | .notIgnored arg => "!" ++ arg ++ ".isIgnored()"
  | .flagged => Helper.ignoreOthers

inductive Code where
  | declareFlag
  | openCall (name : String)
  | act (action : Action)
  /-- `keyword` is `if` with or without a blank after it. -/
  | branch (keyword : String) (guard : Guard) (yes : Action) (no : Option Action)
  | finish
  deriving Repr, DecidableEq

namespace Code

def text : Code → String
  | .declareFlag => "bool " ++ Helper.ignoreOthers ++ " = false;"
  | .openCall name =>
    callType ++ " " ++ expectedCall ++ " = mock()" ++
      methodCall "expectNCalls" [numCalls, quoted name] ++ ";"
  | .act action => action.text
  | .branch keyword guard yes no =>
    keyword ++ "(" ++ guard.text ++ ") " ++ Statement.braced yes.text ++
      String.join (no.toList.map fun action => " else " ++ Statement.braced action.text)
  | .finish => "return " ++ expectedCall ++ ";"

/-- The code assigns or reads the flag. -/
def usesFlag : Code → Bool
  | .act action => action == .raiseFlag
  | .branch _ guard yes no => guard == .flagged || yes == .raiseFlag || no == some .raiseFlag
  | _ => false

end Code

/-! ## Execution -/

/-- A running helper: its flag and its call once they are declared, what has been done to the call,
and whether the helper has returned. -/
structure Frame where
  flag : Option Bool := none
  call : Option String := none
  steps : List CallStep := []
  isDone : Bool := false
  deriving Repr, DecidableEq

/-- A flag that is not declared cannot be read. -/
def Guard.eval (ignored : String → Bool) (f : Frame) : Guard → Option Bool
  | .ignored arg => some (ignored arg)
  | .notIgnored arg => some !ignored arg
  | .flagged => f.flag

/-- Neither a flag nor a call that is not declared can be used. -/
def Action.exec (f : Frame) : Action → Option Frame
  | .raiseFlag => f.flag.map fun _ => { f with flag := some true }
  | .call step => f.call.map fun _ => { f with steps := f.steps ++ [step] }

/-- The frame of a helper that has started to expect its call and not returned yet. -/
structure Frame.IsOpen (f : Frame) : Prop where
  running : f.isDone = false
  opened : f.call.isSome = true

theorem Frame.IsOpen.exec_call {f : Frame} (h : f.IsOpen) (step : CallStep) :
    (Action.call step).exec f = some { f with steps := f.steps ++ [step] } := by
  obtain ⟨name, hname⟩ := Option.isSome_iff_exists.mp h.opened
  simp [Action.exec, hname]

/-- One statement. Nothing is declared twice, and nothing comes after the return. -/
def Code.exec (ignored : String → Bool) (f : Frame) (code : Code) : Option Frame :=
  if f.isDone then none
  else
    match code with
    | .declareFlag => if f.flag.isSome then none else some { f with flag := some false }
    | .openCall name => if f.call.isSome then none else some { f with call := some name }
    | .act action => action.exec f
    | .branch _ guard yes no =>
      match guard.eval ignored f, no with
      | some true, _ => yes.exec f
      | some false, some action => action.exec f
      | some false, none => some f
      | none, _ => none
    | .finish => f.call.map fun _ => { f with isDone := true }

namespace Frame.IsOpen

variable {f : Frame} (h : f.IsOpen) (ignored : String → Bool)
include h

@[simp, grind =] theorem exec_act (action : Action) :
    (Code.act action).exec ignored f = action.exec f := by
  simp [Code.exec, h.running]

theorem exec_branch (keyword : String) (guard : Guard) (yes : Action) (no : Option Action) :
    (Code.branch keyword guard yes no).exec ignored f =
      (guard.eval ignored f).bind fun b =>
        if b then yes.exec f else (no.map (·.exec f)).getD (some f) := by
  simp only [Code.exec, h.running]
  cases guard.eval ignored f with
  | none => rfl
  | some b => cases b <;> cases no <;> rfl

end Frame.IsOpen

/-- Statements one after another. -/
def execAll (ignored : String → Bool) (f : Frame) (code : List Code) : Option Frame :=
  code.foldlM (Code.exec ignored) f

@[simp, grind =] theorem execAll_nil (ignored : String → Bool) (f : Frame) :
    execAll ignored f [] = some f := rfl

@[simp, grind =] theorem execAll_cons (ignored : String → Bool) (f : Frame) (c : Code)
    (cs : List Code) :
    execAll ignored f (c :: cs) = (c.exec ignored f).bind (execAll ignored · cs) := rfl

@[simp, grind =] theorem execAll_append (ignored : String → Bool) (f : Frame) (cs ds : List Code) :
    execAll ignored f (cs ++ ds) = (execAll ignored f cs).bind (execAll ignored · ds) :=
  List.foldlM_append

end Helper

open Helper

/-! ## Statements as code -/

namespace Statement

/-- The statement read as code. -/
def code : Statement → Code
  | .declareFlag => .declareFlag
  | .openCall name => .openCall name
  | .onObject owner => .branch "if" (.notIgnored object) (.call (objectStep owner)) none
  | .check matcher => .act (.call (.check matcher))
  | .checkUnlessIgnored arg matcher => .branch "if " (.notIgnored arg) (.call (.check matcher)) none
  | .checkOrFlag arg matcher =>
    .branch "if " (.ignored arg) .raiseFlag (some (.call (.check matcher)))
  | .andReturn e => .act (.call (.andReturn e))
  | .ignoreOthers => .act (.call .ignoreOthers)
  | .ignoreOthersIfFlagged => .branch "if " .flagged (.call .ignoreOthers) none
  | .finish => .finish

/-- Code and statement have the same text. -/
@[simp, grind =] theorem text_code (st : Statement) : st.code.text = st.render := by
  apply String.toList_injective
  cases st <;> simp [code, Code.text, Guard.text, Action.text, CallStep.text, objectStep, render]

end Statement

/-! ## Running a helper -/

/-- The argument is given as ignored. -/
def HelperSlot.isIgnored (ignored : String → Bool) (s : HelperSlot) : Bool :=
  s.isWrapped && ignored s.name

namespace Helpers

variable (h : Helpers) (ignored : String → Bool)

/-- The check of one parameter is made unless its argument is ignored. An ignored one raises the
flag, which has to be declared for it, unless other parameters are ignored anyway. -/
theorem exec_checkSlot (s : HelperSlot) {f : Frame} (ho : f.IsOpen)
    (hflag : s.isWrapped = true → h.isSkipping = false → f.flag.isSome) :
    (h.checkSlot s).code.exec ignored f =
      some
        { f with
          steps := f.steps ++ if s.isIgnored ignored then [] else [.check s.matcher]
          flag := if !h.isSkipping && s.isIgnored ignored then some true else f.flag } := by
  unfold checkSlot HelperSlot.isIgnored
  cases hw : s.isWrapped with
  | false => simp [Statement.code, ho.exec_act, ho.exec_call]
  | true =>
    cases hs : h.isSkipping with
    | true =>
      cases hi : ignored s.name <;>
        simp [Statement.code, ho.exec_branch, Guard.eval, ho.exec_call, hi]
    | false =>
      obtain ⟨b, hb⟩ := Option.isSome_iff_exists.mp (hflag hw hs)
      cases hi : ignored s.name with
      | true => simp [Statement.code, ho.exec_branch, Guard.eval, Action.exec, hi, hb]
      | false => simp [Statement.code, ho.exec_branch, Guard.eval, ho.exec_call, hi]

/-- The checks of all parameters, one after another. -/
theorem execAll_checks (slots : List HelperSlot) {f : Frame} (ho : f.IsOpen)
    (hflag : ∀ s ∈ slots, s.isWrapped = true → h.isSkipping = false → f.flag.isSome) :
    execAll ignored f (slots.map fun s => (h.checkSlot s).code) =
      some
        { f with
          steps := f.steps ++
            (slots.filter fun s => !s.isIgnored ignored).map fun s => .check s.matcher
          flag := if !h.isSkipping && slots.any (·.isIgnored ignored) then some true
            else f.flag } := by
  induction slots generalizing f with
  | nil => simp
  | cons s slots ih =>
    rw [List.map_cons, execAll_cons, h.exec_checkSlot ignored s ho (hflag s (by simp)),
      Option.bind_some, ih]
    · cases hi : s.isIgnored ignored <;> cases hs : h.isSkipping <;> simp [hi]
    · exact ⟨ho.running, ho.opened⟩
    · -- A check leaves the flag declared: it raises it or does not touch it.
      intro s' hs' hw hs
      have := hflag s' (by simp [hs']) hw hs
      dsimp only
      split
      · rfl
      · exact this

theorem execAll_object (owner? : Option String) {f : Frame} (ho : f.IsOpen) :
    execAll ignored f (owner?.toList.map fun owner => (Statement.onObject owner).code) =
      some
        { f with
          steps := f.steps ++ if ignored object then [] else owner?.toList.map objectStep } := by
  cases owner? with
  | none => simp
  | some owner =>
    cases hi : ignored object <;>
      simp [Statement.code, ho.exec_branch, Guard.eval, ho.exec_call, hi]

theorem execAll_answer (e? : Option Expr) {f : Frame} (ho : f.IsOpen) :
    execAll ignored f (e?.toList.map fun e => (Statement.andReturn e).code) =
      some { f with steps := f.steps ++ e?.toList.map CallStep.andReturn } := by
  cases e? <;> simp [Statement.code, ho.exec_act, ho.exec_call]

/-- Other parameters are ignored if some are skipped or the flag has been raised. -/
theorem execAll_others {f : Frame} (ho : f.IsOpen) (hflag : h.tracksIgnored = f.flag.isSome) :
    execAll ignored f
        ((if h.isSkipping then [Statement.ignoreOthers]
          else if h.tracksIgnored then [.ignoreOthersIfFlagged] else []).map Statement.code) =
      some
        { f with
          steps := f.steps ++
            if h.isSkipping || f.flag.getD false then [.ignoreOthers] else [] } := by
  obtain ⟨flag, call, steps, isDone⟩ := f
  cases hs : h.isSkipping with
  | true => simp [Statement.code, ho.exec_act, ho.exec_call]
  | false =>
    cases flag with
    | none =>
      have : h.tracksIgnored = false := hflag
      simp [this]
    | some b =>
      have : h.tracksIgnored = true := hflag
      cases b <;> simp [this, Statement.code, ho.exec_branch, Guard.eval, ho.exec_call]

theorem execAll_finish {f : Frame} (ho : f.IsOpen) :
    execAll ignored f ([Statement.finish].map Statement.code) = some { f with isDone := true } := by
  obtain ⟨name, hname⟩ := Option.isSome_iff_exists.mp ho.opened
  simp [Statement.code, Code.exec, ho.running, hname]

/-- All that a helper does to the expected call. -/
def steps : List CallStep :=
  (if ignored object then [] else h.owner?.toList.map objectStep) ++
    ((h.slots.filter fun s => !s.isIgnored ignored).map fun s => .check s.matcher) ++
    h.returnExpr?.toList.map CallStep.andReturn ++
    if h.isSkipping || h.slots.any (·.isIgnored ignored) then [.ignoreOthers] else []

/-- The flag is declared wherever a check may raise it. -/
theorem tracksIgnored_of_isWrapped {s : HelperSlot} (hs : s ∈ h.slots) (hw : s.isWrapped = true)
    (hskip : h.isSkipping = false) : h.tracksIgnored = true := by
  simp only [tracksIgnored, hskip, Bool.not_false, Bool.true_and, List.any_eq_true]
  exact ⟨s, hs, hw⟩

/-- Where an argument is ignored, the flag is declared unless some parameter is skipped. -/
theorem tracksIgnored_and_any_isIgnored :
    (h.tracksIgnored && h.slots.any (·.isIgnored ignored)) =
      (!h.isSkipping && h.slots.any (·.isIgnored ignored)) := by
  cases hany : h.slots.any (·.isIgnored ignored) with
  | false => simp
  | true =>
    obtain ⟨s, hs, hi⟩ := List.any_eq_true.mp hany
    have hw : s.isWrapped = true := by
      simp only [HelperSlot.isIgnored, Bool.and_eq_true] at hi
      exact hi.1
    simp only [tracksIgnored, List.any_eq_true.mpr ⟨s, hs, hw⟩, Bool.and_true]

/-- The checks of a helper that starts with its flag lowered: the flag tells in the end whether some
argument is ignored. -/
theorem execAll_slots {f : Frame} (ho : f.IsOpen)
    (hflag : f.flag = if h.tracksIgnored then some false else none) :
    execAll ignored f (h.slots.map fun s => (h.checkSlot s).code) =
      some
        { f with
          steps := f.steps ++
            (h.slots.filter fun s => !s.isIgnored ignored).map fun s => .check s.matcher
          flag := if h.tracksIgnored then some (h.slots.any (·.isIgnored ignored))
            else none } := by
  rw [h.execAll_checks ignored h.slots ho]
  · congr 2
    rw [hflag, ← h.tracksIgnored_and_any_isIgnored ignored]
    cases h.tracksIgnored <;> cases h.slots.any (·.isIgnored ignored) <;> rfl
  · intro s hs hw hskip
    simp [hflag, h.tracksIgnored_of_isWrapped hs hw hskip]

/-- The body runs to its end, whatever is ignored. -/
theorem execAll_body :
    execAll ignored {} (h.body.map Statement.code) =
      some
        { flag := if h.tracksIgnored then some (h.slots.any (·.isIgnored ignored)) else none
          call := some h.call
          steps := h.steps ignored
          isDone := true } := by
  have declared : execAll ignored {}
      ((if h.tracksIgnored then [Statement.declareFlag] else []).map Statement.code) =
        some { flag := if h.tracksIgnored then some false else none } := by
    cases h.tracksIgnored <;> simp [Statement.code, Code.exec]
  have opened (flag : Option Bool) :
      execAll ignored { flag } ([Statement.openCall h.call].map Statement.code) =
        some { flag, call := some h.call } := by
    simp [Statement.code, Code.exec]
  -- The flag is up in the end exactly when it is declared and some argument is ignored.
  have flag :
      (if h.tracksIgnored then some (h.slots.any (·.isIgnored ignored)) else none).getD false =
        (h.tracksIgnored && h.slots.any (·.isIgnored ignored)) := by
    cases h.tracksIgnored <;> simp
  have others : (h.isSkipping || (h.tracksIgnored && h.slots.any (·.isIgnored ignored))) =
      (h.isSkipping || h.slots.any (·.isIgnored ignored)) := by
    rw [h.tracksIgnored_and_any_isIgnored ignored]
    cases h.isSkipping <;> simp
  simp only [body, List.map_append, execAll_append, declared, opened, Option.bind_some]
  simp only [List.map_map, Function.comp_def]
  rw [execAll_object ignored _ ⟨rfl, rfl⟩, Option.bind_some,
    h.execAll_slots ignored ⟨rfl, rfl⟩ rfl, Option.bind_some,
    execAll_answer ignored _ ⟨rfl, rfl⟩, Option.bind_some,
    h.execAll_others ignored ⟨rfl, rfl⟩ (by cases h.tracksIgnored <;> rfl), Option.bind_some,
    execAll_finish ignored ⟨rfl, rfl⟩]
  simp only [steps, flag, others, List.nil_append]

/-! ## The flag -/

@[simp, grind =] theorem usesFlag_checkSlot (s : HelperSlot) :
    (h.checkSlot s).code.usesFlag = (s.isWrapped && !h.isSkipping) := by
  unfold checkSlot
  cases s.isWrapped <;> cases h.isSkipping <;> rfl

theorem code_checkSlot_ne_declareFlag (s : HelperSlot) : (h.checkSlot s).code ≠ .declareFlag := by
  unfold checkSlot
  cases s.isWrapped <;> cases h.isSkipping <;> simp [Statement.code]

/-- Whether some code of a helper passes a test that only the flag and the checks can pass. -/
theorem any_code_body (test : Code → Bool) (hopen : ∀ name, test (.openCall name) = false)
    (hobject : ∀ owner, test (Statement.onObject owner).code = false)
    (hcall : ∀ step, test (.act (.call step)) = false) (hfinish : test .finish = false) :
    (h.body.map Statement.code).any test =
      ((h.tracksIgnored && test .declareFlag) ||
        (h.slots.any fun s => test (h.checkSlot s).code) ||
        (h.tracksIgnored && test Statement.ignoreOthersIfFlagged.code)) := by
  have object : ((h.owner?.toList.map Statement.onObject).map Statement.code).any test = false := by
    cases h.owner? <;> simp [hobject]
  have answer :
      ((h.returnExpr?.toList.map Statement.andReturn).map Statement.code).any test = false := by
    cases h.returnExpr? <;> simp [Statement.code, hcall]
  have others : ((if h.isSkipping then [Statement.ignoreOthers]
      else if h.tracksIgnored then [.ignoreOthersIfFlagged] else []).map Statement.code).any test =
        (h.tracksIgnored && test Statement.ignoreOthersIfFlagged.code) := by
    cases hskip : h.isSkipping with
    | true => simp [tracksIgnored, hskip, Statement.code, hcall]
    | false => cases h.tracksIgnored <;> simp
  have declared : ((if h.tracksIgnored then [Statement.declareFlag] else []).map
      Statement.code).any test = (h.tracksIgnored && test .declareFlag) := by
    cases h.tracksIgnored <;> simp [Statement.code]
  have opened : ([Statement.openCall h.call].map Statement.code).any test = false := by
    simp [Statement.code, hopen]
  have finished : ([Statement.finish].map Statement.code).any test = false := by
    simp [Statement.code, hfinish]
  simp only [body, List.map_append, List.any_append, declared, opened, object, answer, others,
    finished, Bool.or_false]
  simp only [List.any_map, Function.comp_def]

/-- The flag is declared exactly where it is assigned or read. -/
theorem declareFlag_mem_code_iff :
    Code.declareFlag ∈ h.body.map Statement.code ↔
      ∃ code ∈ h.body.map Statement.code, code.usesFlag = true := by
  have declared : (h.body.map Statement.code).any (· == .declareFlag) = h.tracksIgnored := by
    rw [h.any_code_body _ (fun _ => rfl) (fun _ => rfl) (fun _ => rfl) rfl]
    have : ∀ s ∈ h.slots, ¬((h.checkSlot s).code == .declareFlag) = true := fun s _ =>
      by simpa using h.code_checkSlot_ne_declareFlag s
    rw [List.any_eq_false.mpr this]
    cases h.tracksIgnored <;> rfl
  have used : (h.body.map Statement.code).any Code.usesFlag = h.tracksIgnored := by
    rw [h.any_code_body _ (fun _ => rfl) (fun _ => rfl) (fun _ => rfl) rfl]
    simp only [usesFlag_checkSlot, tracksIgnored]
    cases h.isSkipping <;> simp [Statement.code, Code.usesFlag]
  calc Code.declareFlag ∈ h.body.map Statement.code
      ↔ (h.body.map Statement.code).any (· == .declareFlag) = true := by simp
    _ ↔ (h.body.map Statement.code).any Code.usesFlag = true := by rw [declared, used]
    _ ↔ ∃ code ∈ h.body.map Statement.code, code.usesFlag = true := List.any_eq_true

end Helpers

/-- What the helper of a collected signature does, whatever arguments are ignored: it opens the
call, names the object of a method unless that is ignored, checks the parameters that are not
skipped and not ignored, in their order, hands over the answer if calls give a value back, and
ignores other parameters if some parameter is skipped or ignored. The flag for the latter is
declared exactly where it is used. -/
theorem helper_run {underlying : Bool} {parameterOptions typeOptions : List String} {cfg : Config}
    (hcfg : Config.build underlying parameterOptions typeOptions = .ok cfg) {s : Site}
    {sig : Signature} (hsig : (s.signature cfg).result = .ok sig) :
    ∃ helpers answer, sig.helpers = .ok helpers ∧
      sig.implementationsText = .ok helpers.implementations ∧
      helpers.body.map Statement.render = (helpers.body.map Statement.code).map Code.text ∧
      List.Forall₂ (fun p slot => p.helperSlot? = .ok (some slot)) sig.checked helpers.slots ∧
      Option.isSome answer = sig.returns ∧
      (∀ ignored : String → Bool, ∃ flag,
        execAll ignored {} (helpers.body.map Statement.code) =
          some
            { flag, call := some sig.qualifiedName, isDone := true
              steps :=
                (if sig.isMethod && !ignored object then [objectStep sig.owner] else []) ++
                ((helpers.slots.filter fun slot => !slot.isWrapped || !ignored slot.name).map
                  fun slot => .check slot.matcher) ++
                answer.toList.map CallStep.andReturn ++
                if sig.parameters.any (·.isSkipped) ||
                    helpers.slots.any fun slot => slot.isWrapped && ignored slot.name
                then [.ignoreOthers] else [] }) ∧
      helpers.body.getLast? = some .finish ∧
      (Code.declareFlag ∈ helpers.body.map Statement.code ↔
        ∃ code ∈ helpers.body.map Statement.code, code.usesFlag = true) := by
  have sound := Site.sound_of_signature (Config.sound_of_build hcfg) hsig
  obtain ⟨helpers, hh, slots⟩ := sound.exists_helpers
  obtain ⟨heads, hanswer, hcall, hskip⟩ := Signature.helpers_eq_ok_iff.mp hh
  obtain ⟨-, -, -, -, howner, -⟩ := Signature.helperHeads_eq_ok_iff.mp heads
  refine ⟨helpers, helpers.returnExpr?, hh, by simp [Signature.implementationsText, hh],
    by simp, slots, sig.isSome_of_returnExpr? hanswer, ?_,
    List.getLast?_concat, helpers.declareFlag_mem_code_iff⟩
  intro ignored
  have object : (if ignored object then [] else helpers.owner?.toList.map objectStep) =
      if sig.isMethod && !ignored object then [objectStep sig.owner] else [] := by
    rw [howner]
    cases sig.isMethod <;> cases ignored Helper.object <;> rfl
  have run := helpers.execAll_body ignored
  simp only [hcall, Helpers.steps, object, hskip, HelperSlot.isIgnored, Bool.not_and] at run
  exact ⟨_, run⟩

/-- With all that can be ignored, the helper of the specimen still checks `raw`, a pointer with its
size, and hands over the answer. -/
theorem helper_run_specimen :
    ∃ cfg sig helpers flag slot e, Config.build false [] [] = .ok cfg ∧
      (Site.specimen.signature cfg).result = .ok sig ∧ sig.helpers = .ok helpers ∧
      helpers.slots.map (·.name) = ["e", "t", "n", "raw", "unused"] ∧
      helpers.slots[3]? = some slot ∧
      execAll (fun _ => true) {} (helpers.body.map Statement.code) =
        some
          { flag, call := some "ns::C::m", isDone := true
            steps := [.check slot.matcher, .andReturn e, .ignoreOthers] } := by
  obtain ⟨cfg, hcfg⟩ : ∃ cfg, Config.build false [] [] = .ok cfg := ⟨_, rfl⟩
  obtain ⟨sig, helpers, slot, hsig, hh, hcall, hreturns, hnames, hslot, hchecked, hany⟩ :
      ∃ sig helpers slot, (Site.specimen.signature cfg).result = .ok sig ∧
        sig.helpers = .ok helpers ∧ sig.qualifiedName = "ns::C::m" ∧ sig.returns = true ∧
        helpers.slots.map (·.name) = ["e", "t", "n", "raw", "unused"] ∧
        helpers.slots[3]? = some slot ∧
        (helpers.slots.filter fun slot => !slot.isWrapped || !true) = [slot] ∧
        (helpers.slots.any fun slot => slot.isWrapped && true) = true := by
    cases hcfg
    exact ⟨_, _, _, rfl, rfl, rfl, rfl, rfl, rfl, rfl, rfl⟩
  obtain ⟨helpers', answer, hh', -, -, -, hanswer, hrun, -⟩ := helper_run hcfg hsig
  obtain rfl : helpers = helpers' := Except.ok.inj (hh.symm.trans hh')
  obtain ⟨e, rfl⟩ := Option.isSome_iff_exists.mp (hanswer.trans hreturns)
  obtain ⟨flag, hflag⟩ := hrun fun _ => true
  refine ⟨cfg, sig, helpers, flag, slot, e, hcfg, hsig, hh, hnames, hslot, ?_⟩
  rw [hflag, hcall, hchecked, hany]
  simp

end HeaderMock

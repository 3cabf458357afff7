import HeaderMock.Proofs.Helper.Capture
import HeaderMock.Proofs.Text.Split
import Mathlib.Data.List.Nodup

/-!
# Distinct names

The names in a generated function come from three sources: those of the declaration, numbers for
parameters without a name, and names of its own, among them one for the size of each buffer. As long
as the names of the declaration are distinct and leave those of the other sources alone, no two
names of one function are the same.

## Main definitions

* `Argument.HasFreeName`: the name of an argument is none of those that are made up.
* `Helper.reserved`: the names that helpers have of their own.
* `Statement.declared?`, `Helpers.locals`: the variables of a helper.

## Main statements

* `Argument.nodup_names`: the names of parameters, declared or numbered, are distinct.
* `nodup_declared`: so are all names in a helper.
* `declared_names_distinct`: the names in the helpers and in the mock of a collected signature.
-/

namespace HeaderMock

open Text

/-! ## Names of parameters -/

/-- The name of the argument is none of those that are made up. -/
structure Argument.HasFreeName (arg : Argument) : Prop where
  notReserved : startsWith arg.spelling "__" = false
  notNumbered : startsWith arg.spelling "_unnamedArg" = false

namespace Argument

variable {a b : Argument} {i j : Nat}

theorem name_of_ne_empty (h : a.spelling ≠ "") : a.name i = a.spelling := by
  simp [name, h]

theorem name_of_eq_empty (h : a.spelling = "") : a.name i = "_unnamedArg" ++ toString i := by
  simp [name, h]

/-- Parameters without a name that are called alike have the same number. -/
theorem eq_of_numbered_eq (h : "_unnamedArg" ++ toString i = "_unnamedArg" ++ toString j) :
    i = j := by
  have hdigits : Nat.toDigits 10 i = Nat.toDigits 10 j := by
    rw [String.append_right_inj, ← String.toList_inj] at h
    simpa only [show toString i = Nat.repr i from rfl, show toString j = Nat.repr j from rfl,
      Nat.toList_repr] using h
  rw [← Nat.ofDigitChars_ten_toDigits (n := i), hdigits, Nat.ofDigitChars_ten_toDigits]

/-- A declared name is not that of a parameter without a name. -/
theorem HasFreeName.spelling_ne (h : a.HasFreeName) (text : String) :
    a.spelling ≠ "_unnamedArg" ++ text := by
  intro heq
  have hstart := startsWith_iff.mpr ⟨text, heq⟩
  simp [h.notNumbered] at hstart

/-- Parameters with the same name have the same declared name, or the same number. -/
theorem HasFreeName.eq_of_name_eq (ha : a.HasFreeName) (hb : b.HasFreeName)
    (h : a.name i = b.name j) :
    a.spelling = b.spelling ∧ (a.spelling = "" → i = j) := by
  by_cases hea : a.spelling = "" <;> by_cases heb : b.spelling = ""
  · rw [name_of_eq_empty hea, name_of_eq_empty heb] at h
    exact ⟨hea.trans heb.symm, fun _ => eq_of_numbered_eq h⟩
  · rw [name_of_eq_empty hea, name_of_ne_empty heb] at h
    exact absurd h.symm (hb.spelling_ne _)
  · rw [name_of_ne_empty hea, name_of_eq_empty heb] at h
    exact absurd h (ha.spelling_ne _)
  · rw [name_of_ne_empty hea, name_of_ne_empty heb] at h
    exact ⟨h, fun hempty => absurd hempty hea⟩

/-- No parameter has a name like those of helpers. -/
theorem HasFreeName.startsWith_name (h : a.HasFreeName) : startsWith (a.name i) "__" = false := by
  by_cases he : a.spelling = ""
  · simp [name_of_eq_empty he, startsWith, dropStart?]
  · rw [name_of_ne_empty he]
    exact h.notReserved

/-- The names of the arguments from the number `i` on are distinct. The induction leaves the numbers
of the rest above that of the first argument. -/
theorem nodup_names {args : List Argument} (hfree : ∀ a ∈ args, a.HasFreeName)
    (hdistinct : ((args.map (·.spelling)).filter (· ≠ "")).Nodup) (i : Nat) :
    ((args.zipIdx i).map fun a => a.1.name a.2).Nodup := by
  induction args generalizing i with
  | nil => simp
  | cons a args ih =>
    have ha := hfree a (by simp)
    have hrest : ∀ b ∈ args, b.HasFreeName := fun b hb => hfree b (by simp [hb])
    have hsub : (args.map (·.spelling)).Sublist ((a :: args).map (·.spelling)) := by simp
    rw [List.zipIdx_cons, List.map_cons, List.nodup_cons]
    refine ⟨fun hmem => ?_, ih hrest (hdistinct.sublist (hsub.filter _)) (i + 1)⟩
    obtain ⟨⟨b, j⟩, hb, hname⟩ := List.mem_map.mp hmem
    obtain ⟨hle, -, -⟩ := List.mem_zipIdx hb
    have hb : b ∈ args := List.fst_mem_of_mem_zipIdx hb
    obtain ⟨hspelling, hnumber⟩ := ha.eq_of_name_eq (hrest b hb) hname.symm
    by_cases he : a.spelling = ""
    · have := hnumber he
      omega
    · rw [List.map_cons, List.filter_cons_of_pos (by simpa using he), List.nodup_cons] at hdistinct
      exact hdistinct.1 (List.mem_filter.mpr ⟨List.mem_map.mpr ⟨b, hb, hspelling.symm⟩,
        by simpa using he⟩)

end Argument

/-- The parameters of a collected signature have the names of their arguments. -/
theorem Site.Collects.map_name_parameters {s : Site} {cfg : Config} {sig : Signature}
    (h : s.Collects cfg sig) :
    sig.parameters.map (·.name) = s.info.args.zipIdx.map fun a => a.1.name a.2 := by
  rw [eq_comm, ← List.forall₂_eq_eq_eq, List.forall₂_map_left_iff, List.forall₂_map_right_iff]
  exact h.forall₂_parameters.imp fun _ _ hp => hp.name.symm

/-! ## Names in helpers -/

/-- The names that helpers have of their own. -/
def Helper.reserved : List String :=
  ["__numCalls__", "__object__", "__return__", "__ignoreOtherParams__", "__expectedCall__"]

/-- The variable that a statement declares. -/
def Statement.declared? : Statement → Option String
  | .declareFlag => some Helper.ignoreOthers
  | .openCall _ => some Helper.expectedCall
  | _ => none

/-- The variables of the helper for a number of calls. -/
def Helpers.locals (h : Helpers) : List String := h.body.filterMap Statement.declared?

/-- A statement that declares a variable has the form of a declaration. -/
theorem Statement.exists_render_of_declared? {s : Statement} {name : String}
    (h : s.declared? = some name) :
    ∃ type value, s.render = type ++ " " ++ name ++ " = " ++ value ++ ";" := by
  cases s with
  | declareFlag =>
    obtain rfl := Option.some.inj h
    exact ⟨"bool", "false", rfl⟩
  | openCall call =>
    obtain rfl := Option.some.inj h
    refine ⟨Helper.callType,
      "mock()" ++ methodCall "expectNCalls" [Helper.numCalls, quoted call], ?_⟩
    simp [render, ← String.toList_inj]
  | _ => cases h

theorem Helpers.declared?_checkSlot (h : Helpers) (slot : HelperSlot) :
    (h.checkSlot slot).declared? = none := by
  unfold checkSlot
  split_ifs <;> rfl

/-- The helper has a variable for the expected call, and one that remembers ignored arguments if it
has to. -/
theorem Helpers.locals_eq (h : Helpers) :
    h.locals = (if h.tracksIgnored then ["__ignoreOtherParams__"] else []) ++
      ["__expectedCall__"] := by
  have hobject : (h.owner?.toList.map Statement.onObject).filterMap Statement.declared? = [] := by
    cases h.owner? <;> rfl
  have hchecks : (h.slots.map h.checkSlot).filterMap Statement.declared? = [] := by
    simp [h.declared?_checkSlot]
  have hanswer :
      (h.returnExpr?.toList.map Statement.andReturn).filterMap Statement.declared? = [] := by
    cases h.returnExpr? <;> rfl
  simp only [locals, body, List.filterMap_append, hobject, hchecks, hanswer]
  cases h.isSkipping <;> cases h.tracksIgnored <;> rfl

/-- The names of the formals of the helper for a number of calls. -/
theorem Signature.map_name_formalsMany {sig : Signature} {helpers : Helpers}
    (hhelpers : sig.helpers = .ok helpers)
    (hslots : List.Forall₂ (fun p slot => p.helperSlot? = .ok (some slot)) sig.checked
      helpers.slots) :
    (helpers.formalsMany false).map (·.name) =
      "__numCalls__" :: ((if sig.isMethod then ["__object__"] else []) ++
        sig.checked.flatMap Parameter.forwarded ++
        if sig.returns then ["__return__"] else []) := by
  obtain ⟨hheads, -⟩ := Signature.helpers_eq_ok_iff.mp hhelpers
  obtain ⟨-, htype, -, -, howner, -⟩ := Signature.helperHeads_eq_ok_iff.mp hheads
  have hobject : helpers.owner?.toList.map (fun _ => Helper.object) =
      if sig.isMethod then ["__object__"] else [] := by
    rw [howner]
    cases sig.isMethod <;> rfl
  have hreturns : helpers.returnType?.toList.map (fun _ => Helper.returnValue) =
      if sig.returns then ["__return__"] else [] := by
    rw [← Signature.isSome_of_returnType? htype]
    cases helpers.returnType? <;> rfl
  rw [HelperHeads.formalsMany, List.map_cons, HelperHeads.map_name_formals,
    ← flatMap_names_of_forall₂ hslots, ← hobject, ← hreturns]
  rfl

section Parameters

variable {ps : List Parameter}

/-- A name that does not start like those of helpers is none of them. -/
theorem ne_of_startsWith_eq_false {name other : String} (h : startsWith name "__" = false)
    (hother : startsWith other "__" = true) : name ≠ other := by
  rintro rfl
  simp [h] at hother

theorem startsWith_sizeOf (name : String) : startsWith ("__sizeof_" ++ name) "__" = true :=
  startsWith_iff.mpr ⟨"sizeof_" ++ name, by rw [← String.append_assoc]; rfl⟩

/-- The names that stand for parameters and for the sizes of buffers are distinct. -/
theorem nodup_forwarded (hnames : (ps.map (·.name)).Nodup)
    (hfree : ∀ p ∈ ps, startsWith p.name "__" = false) :
    (ps.flatMap Parameter.forwarded).Nodup := by
  have hsize {p q : Parameter} (hp : p ∈ ps) : p.name ≠ "__sizeof_" ++ q.name :=
    ne_of_startsWith_eq_false (hfree p hp) (startsWith_sizeOf q.name)
  rw [List.nodup_flatMap]
  refine ⟨fun p hp => ?_, ?_⟩
  · unfold Parameter.forwarded
    cases p.isSizedBuffer <;> simp [hsize hp]
  · refine (List.pairwise_map.mp hnames).imp_of_mem fun hp hq hne => ?_
    rw [Function.onFun_apply, List.disjoint_left]
    intro name hnamep hnameq
    rw [Parameter.mem_forwarded_iff] at hnamep hnameq
    rcases hnamep with rfl | ⟨-, rfl⟩ <;> rcases hnameq with heq | ⟨-, heq⟩
    · exact hne heq
    · exact hsize hp heq
    · exact hsize hq heq.symm
    · exact hne ((String.append_right_inj _).mp heq)

/-- Helpers have no name of their own that stands for a parameter or the size of a buffer. -/
theorem notMem_forwarded (hfree : ∀ p ∈ ps, startsWith p.name "__" = false) {name : String}
    (hname : name ∈ Helper.reserved) : name ∉ ps.flatMap Parameter.forwarded := by
  have hstart : startsWith name "__" = true := by
    revert name
    decide
  have hsize : startsWith name "__sizeof_" = false := by
    revert name
    decide
  intro hmem
  obtain ⟨p, hp, hmem⟩ := List.mem_flatMap.mp hmem
  rcases Parameter.mem_forwarded_iff.mp hmem with heq | ⟨-, heq⟩
  · exact ne_of_startsWith_eq_false (hfree p hp) hstart heq.symm
  · simp [startsWith_iff.mpr ⟨_, heq⟩] at hsize

/-- All names in a helper are distinct, whether it has an object and a value to return or not. -/
theorem nodup_declared (hnames : (ps.map (·.name)).Nodup)
    (hfree : ∀ p ∈ ps, startsWith p.name "__" = false) (onObject returns : Bool) :
    ("__numCalls__" :: ((if onObject then ["__object__"] else []) ++
        ps.flatMap Parameter.forwarded ++ if returns then ["__return__"] else []) ++
      ["__ignoreOtherParams__", "__expectedCall__"]).Nodup := by
  have hall : (Helper.reserved ++ ps.flatMap Parameter.forwarded).Nodup :=
    List.nodup_append'.mpr ⟨by decide, nodup_forwarded hnames hfree,
      fun _ hname => notMem_forwarded hfree hname⟩
  -- The names stand in another order there, and two of them may be missing.
  have hperm : (Helper.reserved ++ ps.flatMap Parameter.forwarded).Perm
      ("__numCalls__" :: (["__object__"] ++ ps.flatMap Parameter.forwarded ++ ["__return__"]) ++
        ["__ignoreOtherParams__", "__expectedCall__"]) := by
    have hback : (["__return__", "__ignoreOtherParams__", "__expectedCall__"] ++
        ps.flatMap Parameter.forwarded).Perm (ps.flatMap Parameter.forwarded ++
          ["__return__", "__ignoreOtherParams__", "__expectedCall__"]) := List.perm_append_comm
    simpa [Helper.reserved] using hback
  refine (hperm.nodup_iff.mp hall).sublist ?_
  cases onObject <;> cases returns <;> simp

end Parameters

/-- The names in the code of a collected signature. The names that the helper for a number of calls
declares, as formals and as variables, are distinct, and so are those of the parameters that have
one in the head of the mock, if the names of the declaration are distinct and none of them is one of
those that are made up. -/
theorem declared_names_distinct {underlying : Bool} {parameterOptions typeOptions : List String}
    {cfg : Config} (hcfg : Config.build underlying parameterOptions typeOptions = .ok cfg)
    {s : Site} {sig : Signature} (hsig : (s.signature cfg).result = .ok sig)
    (hdistinct : ((s.info.args.map (·.spelling)).filter (· ≠ "")).Nodup)
    (hfree : ∀ arg ∈ s.info.args, arg.HasFreeName) :
    ∃ mock helpers, sig.mock = .ok mock ∧ sig.helpers = .ok helpers ∧
      sig.mockText = .ok mock.render ∧ sig.implementationsText = .ok helpers.implementations ∧
      (helpers.formalsMany false).map (·.name) =
        "__numCalls__" :: ((if sig.isMethod then ["__object__"] else []) ++
          sig.checked.flatMap Parameter.forwarded ++
          if sig.returns then ["__return__"] else []) ∧
      helpers.locals = (if helpers.tracksIgnored then ["__ignoreOtherParams__"] else []) ++
        ["__expectedCall__"] ∧
      (∀ statement ∈ helpers.body, ∀ name, statement.declared? = some name →
        ∃ type value, statement.render = type ++ " " ++ name ++ " = " ++ value ++ ";") ∧
      ((helpers.formalsMany false).map (·.name) ++
        ["__ignoreOtherParams__", "__expectedCall__"]).Nodup ∧
      ((helpers.formalsMany false).map (·.name) ++ helpers.locals).Nodup ∧
      mock.head = sig.head ∧
      (∀ p ∈ sig.parameters, p.declaration =
        p.declaredName?.elim p.typeSpelling (Spelling.declare p.typeSpelling)) ∧
      (sig.parameters.filterMap Parameter.declaredName?).Nodup := by
  have collects := Site.collects_of_signature hsig
  have sound := collects.sound (Config.sound_of_build hcfg)
  obtain ⟨mock, hmock, -⟩ := sound.exists_mock
  obtain ⟨helpers, hhelpers, hslots⟩ := sound.exists_helpers
  have hnames : (sig.checked.map (·.name)).Nodup := by
    have hall : (sig.parameters.map (·.name)).Nodup := by
      rw [collects.map_name_parameters]
      exact Argument.nodup_names hfree hdistinct 0
    exact hall.sublist (List.filter_sublist.map _)
  have hplain : ∀ p ∈ sig.checked, startsWith p.name "__" = false := by
    intro p hp
    obtain ⟨⟨arg, i⟩, harg, hcollects⟩ :=
      exists_of_mem_of_forall₂ collects.forall₂_parameters (List.mem_of_mem_filter hp)
    rw [hcollects.name]
    exact (hfree arg (List.fst_mem_of_mem_zipIdx harg)).startsWith_name
  have hformals := Signature.map_name_formalsMany hhelpers hslots
  have hwith : ((helpers.formalsMany false).map (·.name) ++
      ["__ignoreOtherParams__", "__expectedCall__"]).Nodup := by
    rw [hformals]
    exact nodup_declared hnames hplain sig.isMethod sig.returns
  refine ⟨mock, helpers, hmock, hhelpers, by simp [Signature.mockText, hmock],
    by simp [Signature.implementationsText, hhelpers], hformals, helpers.locals_eq,
    fun _ _ _ => Statement.exists_render_of_declared?, hwith,
    hwith.sublist (List.Sublist.append_left ?_ _), (Signature.mock_eq_ok_iff.mp hmock).1,
    fun p _ => p.declaration_eq, ?_⟩
  · rw [helpers.locals_eq]
    cases helpers.tracksIgnored <;> simp
  · rwa [sig.filterMap_declaredName?]

/-- `int C::m(int, char *raw, char *, int n)` -/
def Site.partlyNamed : Site where
  routine := .method
  info :=
    { kind := .routine .method, spelling := "m", access := .opened, file := some "c.hpp"
      result := { kind := .int, spelling := "int" }
      args :=
        [{ type := { kind := .int, spelling := "int" } },
         { spelling := "raw"
           type :=
            { kind := .pointer, spelling := "char *"
              pointee? := some { kind := .plainSignedChar, spelling := "char" } } },
         { type :=
            { kind := .pointer, spelling := "char *"
              pointee? := some { kind := .plainSignedChar, spelling := "char" } } },
         { spelling := "n", type := { kind := .int, spelling := "int" } }] }
  enclosing := [{ kind := .classScope, spelling := "C" }, .wholeUnit]

/-- Numbered and declared names next to each other, two of them with sizes. -/
theorem declared_names_distinct_partlyNamed :
    ∃ cfg sig helpers, Config.build false ["C::m#n=Skip"] [] = .ok cfg ∧
      (Site.partlyNamed.signature cfg).result = .ok sig ∧ sig.helpers = .ok helpers ∧
      (helpers.formalsMany false).map (·.name) =
        ["__numCalls__", "__object__", "_unnamedArg0", "raw", "__sizeof_raw", "_unnamedArg2",
          "__sizeof__unnamedArg2", "__return__"] ∧
      ((helpers.formalsMany false).map (·.name) ++ helpers.locals).Nodup ∧
      (sig.parameters.filterMap Parameter.declaredName?).Nodup := by
  obtain ⟨cfg, hcfg⟩ : ∃ cfg, Config.build false ["C::m#n=Skip"] [] = .ok cfg := ⟨_, rfl⟩
  obtain ⟨sig, hsig, hmethod, hreturns, hforwarded⟩ :
      ∃ sig, (Site.partlyNamed.signature cfg).result = .ok sig ∧ sig.isMethod = true ∧
        sig.returns = true ∧ sig.checked.flatMap Parameter.forwarded =
          ["_unnamedArg0", "raw", "__sizeof_raw", "_unnamedArg2", "__sizeof__unnamedArg2"] := by
    cases hcfg
    exact ⟨_, rfl, rfl, rfl, by decide⟩
  have hfree : ∀ arg ∈ Site.partlyNamed.info.args, arg.HasFreeName := by
    intro arg harg
    simp only [Site.partlyNamed, List.mem_cons, List.not_mem_nil, or_false] at harg
    rcases harg with rfl | rfl | rfl | rfl <;> exact ⟨by decide, by decide⟩
  obtain ⟨-, helpers, -, hhelpers, -, -, hformals, -, -, -, hnodup, -, -, hmock⟩ :=
    declared_names_distinct hcfg hsig (by decide) hfree
  rw [hmethod, hreturns, hforwarded] at hformals
  exact ⟨cfg, sig, helpers, hcfg, hsig, hhelpers, hformals, hnodup, hmock⟩

end HeaderMock

import HeaderMock.Generate
import HeaderMock.Proofs.Rendering.Parts

/-!
# Declared, defined and forwarded

The declarations of the pair of helpers, their definitions and the call that the helper for a single
call makes agree, formal by formal and argument by argument.

## Main definitions

* `Parameter.isSizedBuffer`: the parameters that are handed over with their size.
* `Helper.headText`, `Helper.forwardText`: the head of a helper, and the call of the other one.
* `Signature.Forwards`: how declared formals, defined formals and forwarded arguments belong
  together.

## Main statements

* `Parameter.of_helperSlot?`: the name and the size of a slot are those of its parameter.
* `HelperHeads.forall₂_forwarded`: one argument for each formal.
* `helpers_forward`: the texts of the helpers of a collected signature.
-/

namespace HeaderMock

/-- The override hands its parameter over as a pointer and a size: an output whose size nothing
tells, or bytes. -/
def Override.isSizedBuffer (o : Override) : Bool :=
  match o.kind with
  | .output => o.expectType.isNone
  | .memoryBuffer _ => true
  | _ => false

/-- The parameter is handed over as a pointer and a size. -/
def Parameter.isSizedBuffer (p : Parameter) : Bool :=
  match p.override, p.classification with
  | some o, _ => o.isSizedBuffer
  | none, some c => c.kind == .output && c.sized
  | none, none => false

/-- The arguments that are forwarded for a parameter. -/
def Parameter.forwarded (p : Parameter) : List String :=
  p.name :: if p.isSizedBuffer then ["__sizeof_" ++ p.name] else []

@[simp, grind =] theorem Parameter.mem_forwarded_iff {p : Parameter} {name : String} :
    name ∈ p.forwarded ↔
      name = p.name ∨ p.isSizedBuffer = true ∧ name = "__sizeof_" ++ p.name := by
  unfold Parameter.forwarded
  cases p.isSizedBuffer <;> simp

namespace Helper

/-- The head of a helper. -/
def headText (name : String) (formals : List String) : String :=
  "MockExpectedCall& " ++ name ++ "(" ++ Layout.commaSeparated formals ++ ")"

/-- The statement that forwards a single call. -/
def forwardText (name : String) (args : List String) : String :=
  "return " ++ name ++ "(" ++ Layout.commaSeparated ("1" :: args) ++ ");"

end Helper

/-! ## Slots -/

theorem Classification.of_helperSlot (c : Classification) (name : String) :
    (c.helperSlot name).name = name ∧
      (c.helperSlot name).isSized = (c.kind == .output && c.sized) := by
  unfold Classification.helperSlot
  dsimp only
  split
  · next h => simp [h]
  · next h =>
    split
    · next hs => simp [HelperSlot.buffer, h, hs]
    · next hs => simp [HelperSlot.output, hs]
  · next h => simp [h]
  · next h => simp_all

theorem Override.of_helperSlot? {o : Override} {p : Parameter} {slot : HelperSlot}
    (h : o.helperSlot? p = some slot) : slot.name = p.name ∧ slot.isSized = o.isSizedBuffer := by
  unfold Override.helperSlot? at h
  unfold Override.isSizedBuffer
  cases hk : o.kind with
  | output =>
    cases ht : o.expectType <;> simp only [hk, ht, Option.some.injEq] at h <;> subst h <;>
      simp [HelperSlot.buffer, HelperSlot.output]
  | skip => simp [hk] at h
  | _ =>
    simp only [hk, Option.some.injEq] at h
    subst h
    simp [HelperSlot.output]

/-- The name of a slot and whether it has a size are those of its parameter. -/
theorem Parameter.of_helperSlot? {p : Parameter} {slot : HelperSlot}
    (h : p.helperSlot? = .ok (some slot)) :
    slot.name = p.name ∧ slot.isSized = p.isSizedBuffer := by
  unfold Parameter.helperSlot? at h
  unfold Parameter.isSizedBuffer
  split at h
  · simp at h
  split at h
  · next o ho =>
    simpa [ho] using Override.of_helperSlot? (Except.ok.inj h)
  · next c ho hc =>
    obtain rfl : c.helperSlot p.name = slot := by simpa using h
    simpa [ho, hc] using c.of_helperSlot p.name
  · simp at h

/-! ## Heads of helpers -/

theorem Formal.render_of_no_default {f : Formal} (h : f.default? = none) :
    f.render = f.type ++ " " ++ f.name := by
  simp [Formal.render, h, String.join]

@[simp, grind =] theorem HelperSlot.map_name_formals (s : HelperSlot) :
    s.formals.map (·.name) = s.names := by
  unfold HelperSlot.formals HelperSlot.names
  cases s.isSized <;> simp

theorem HelperSlot.default?_of_mem_formals {s : HelperSlot} {f : Formal} (h : f ∈ s.formals) :
    f.default? = none := by
  unfold HelperSlot.formals at h
  rcases List.mem_cons.mp h with rfl | h
  · rfl
  · split at h
    · obtain rfl := List.mem_singleton.mp h
      rfl
    · simp at h

namespace HelperHeads

variable (h : HelperHeads)

/-- Each formal is forwarded under its name. -/
theorem map_name_formals (withDefaults : Bool) :
    (h.formals withDefaults).map (·.name) = h.forwarded.tail := by
  simp [formals, forwarded, List.map_flatMap, Function.comp_def]

theorem default?_of_mem_formals {f : Formal} (hf : f ∈ h.formals false) : f.default? = none := by
  simp only [formals, List.mem_append, List.mem_map, List.mem_flatMap] at hf
  rcases hf with (⟨owner, -, rfl⟩ | ⟨slot, -, hf⟩) | ⟨type, -, rfl⟩
  · rfl
  · exact HelperSlot.default?_of_mem_formals hf
  · rfl

/-- A formal without a default is its type, a space and what is forwarded for it. -/
theorem forall₂_forwarded :
    List.Forall₂ (fun formal arg => ∃ type, formal = type ++ " " ++ arg)
      ((h.formals false).map Formal.render) h.forwarded.tail := by
  rw [← h.map_name_formals false, List.forall₂_map_left_iff, List.forall₂_map_right_iff,
    List.forall₂_same]
  exact fun f hf => ⟨f.type, Formal.render_of_no_default (h.default?_of_mem_formals hf)⟩

/-- Only the object of a destructor has a default. -/
theorem map_render_formals_true (hobject : h.ignoresObject = true → h.owner?.isSome) :
    (h.formals true).map Formal.render =
      if h.ignoresObject then
        ((h.formals false).map Formal.render).modifyHead
          (· ++ " = ::CppUMockGen::IgnoreParameter::YES")
      else (h.formals false).map Formal.render := by
  cases hi : h.ignoresObject with
  | false => simp [formals, hi]
  | true =>
    obtain ⟨owner, ho⟩ := Option.isSome_iff_exists.mp (hobject hi)
    simp [formals, hi, ho, Formal.render, String.join, Helper.ignored, String.append_assoc]

end HelperHeads

/-! ## Texts -/

theorem Signature.isSome_of_returnType? {sig : Signature} {type : Option String}
    (h : sig.returnType? = .ok type) : type.isSome = sig.returns := by
  unfold returnType? at h
  split at h
  · next o ho =>
    split at h
    · cases h
      simp [returns, ho]
    · obtain ⟨kind, -, rfl⟩ := map_eq_ok_iff.mp h
      simp [returns, ho]
  · next c ho hr =>
    cases h
    simp [returns, hr]
  · next ho hr =>
    cases h
    simp [returns, ho, hr]

/-- The arguments that are forwarded for slots are those for their parameters. -/
theorem flatMap_names_of_forall₂ {ps : List Parameter} {slots : List HelperSlot}
    (h : List.Forall₂ (fun p slot => p.helperSlot? = .ok (some slot)) ps slots) :
    slots.flatMap (·.names) = ps.flatMap Parameter.forwarded := by
  induction h with
  | nil => rfl
  | @cons p slot ps slots hslot _ ih =>
    obtain ⟨hname, hsized⟩ := Parameter.of_helperSlot? hslot
    rw [List.flatMap_cons, List.flatMap_cons, ih, HelperSlot.names, Parameter.forwarded, hname,
      hsized]
    rfl

/-- How the formals of the declarations, the formals of the definitions and the arguments of the
forwarding call belong together. -/
structure Signature.Forwards (sig : Signature) (declared defined args : List String) : Prop where
  /-- Only the object of a destructor has a default. -/
  declared_eq : declared =
    if sig.routine = .destructor then
      defined.modifyHead (· ++ " = ::CppUMockGen::IgnoreParameter::YES")
    else defined
  /-- A destructor is called on an object. -/
  isMethod_of_destructor : sig.routine = .destructor → sig.isMethod = true
  formals : List.Forall₂ (fun formal arg => ∃ type, formal = type ++ " " ++ arg) defined args
  args_eq : args = (if sig.isMethod then ["__object__"] else []) ++
    sig.checked.flatMap Parameter.forwarded ++ if sig.returns then ["__return__"] else []

theorem Site.Collects.isMethod_of_destructor {s : Site} {cfg : Config} {sig : Signature}
    (h : s.Collects cfg sig) (hr : sig.routine = .destructor) : sig.isMethod = true := by
  have hstatic : sig.isStatic = false := by
    rw [h.isStatic, ← h.routine, hr]
    rfl
  simp [Signature.isMethod, hr, hstatic]

/-- The helpers of a collected signature are declared as they are defined, up to the default of the
object, and the helper for a single call forwards one argument for each formal of the other one. -/
theorem helpers_forward {underlying : Bool} {parameterOptions typeOptions : List String}
    {cfg : Config} (hcfg : Config.build underlying parameterOptions typeOptions = .ok cfg)
    {s : Site} {sig : Signature} (hsig : (s.signature cfg).result = .ok sig) :
    ∃ declared defined args body, sig.Forwards declared defined args ∧
      sig.prototypesText =
        .ok (inExpectNamespaces
          (Helper.headText sig.helperName declared ++ ";\n" ++
            Helper.headText sig.helperName ("unsigned int __numCalls__" :: declared) ++ ";\n")
          sig.namespaces) ∧
      sig.implementationsText =
        .ok (inExpectNamespaces
          (Helper.headText sig.helperName defined ++ "\n" ++
            Layout.block [Helper.forwardText sig.helperName args] ++
            Helper.headText sig.helperName ("unsigned int __numCalls__" :: defined) ++ "\n" ++
            Layout.block body)
          sig.namespaces) := by
  have sound := Site.sound_of_signature (Config.sound_of_build hcfg) hsig
  obtain ⟨helpers, hh, hslots⟩ := sound.exists_helpers
  obtain ⟨hheads, -, -, -⟩ := Signature.helpers_eq_ok_iff.mp hh
  obtain ⟨-, htype, hname, hnamespaces, howner, hignores⟩ :=
    Signature.helperHeads_eq_ok_iff.mp hheads
  have hmethod := (Site.collects_of_signature hsig).isMethod_of_destructor
  have hobject : helpers.ignoresObject = true → helpers.owner?.isSome := by
    intro hi
    have hr : sig.routine = .destructor := by simpa [hignores] using hi
    simp [howner, hmethod hr]
  refine ⟨(helpers.formals true).map Formal.render, (helpers.formals false).map Formal.render,
    helpers.forwarded.tail, helpers.body.map Statement.render,
    ⟨?_, hmethod, helpers.forall₂_forwarded, ?_⟩, ?_, ?_⟩
  · rw [helpers.map_render_formals_true hobject, hignores]
    simp
  · have hobjects : helpers.owner?.toList.map (fun _ => Helper.object) =
        if sig.isMethod then ["__object__"] else [] := by
      rw [howner]
      cases sig.isMethod <;> rfl
    have hreturns : helpers.returnType?.toList.map (fun _ => Helper.returnValue) =
        if sig.returns then ["__return__"] else [] := by
      rw [← Signature.isSome_of_returnType? htype]
      cases helpers.returnType? <;> rfl
    rw [← hobjects, ← hreturns, ← flatMap_names_of_forall₂ hslots]
    rfl
  · rw [Signature.prototypesText, hheads, ← hname, ← hnamespaces]
    rfl
  · rw [Signature.implementationsText, hh, ← hname, ← hnamespaces]
    rfl

/-- The helpers of the specimen forward the object, each parameter but the skipped one, the size of
the buffer and the value to return. -/
theorem helpers_forward_specimen :
    ∃ cfg sig declared defined,
      Config.build false Config.specimenOptions [] = .ok cfg ∧
        (Site.specimen.signature cfg).result = .ok sig ∧
        sig.Forwards declared defined
          ["__object__", "e", "t", "n", "raw", "__sizeof_raw", "__return__"] := by
  obtain ⟨cfg, hcfg⟩ : ∃ cfg, Config.build false Config.specimenOptions [] = .ok cfg := ⟨_, rfl⟩
  obtain ⟨sig, hsig, hargs⟩ : ∃ sig, (Site.specimen.signature cfg).result = .ok sig ∧
      (if sig.isMethod then ["__object__"] else []) ++ sig.checked.flatMap Parameter.forwarded ++
        (if sig.returns then ["__return__"] else []) =
          ["__object__", "e", "t", "n", "raw", "__sizeof_raw", "__return__"] := by
    cases hcfg
    exact ⟨_, rfl, rfl⟩
  obtain ⟨declared, defined, args, -, hforwards, -, -⟩ := helpers_forward hcfg hsig
  obtain rfl := hforwards.args_eq.trans hargs
  exact ⟨cfg, sig, declared, defined, hcfg, hsig, hforwards⟩

end HeaderMock

import HeaderMock.Proofs.FileTree.Write
import HeaderMock.Run

/-!
# The outputs of a run

A run generates all code before it writes anything, and then writes the mock file, the header and
the source of the expectations, in this order and as far as they are wanted. So a run that fails has
changed nothing, or it has completed the outputs in front of one that is refused. Of this one there
may be a start, since the operating system can fail in the middle of it.

## Main definitions

* `SameOutputs`: two worlds with the same files, where the same is printed.
* `RunM.IsQuiet`: a computation changes no file and prints nothing.
* `Output`: a text and where it goes; `Command.outputs` are those of a command.
* `World.refusal?`: why an output is refused; `Refusal.left` is what is there of it nevertheless.
* `Produced`: one world is another one with some outputs.

## Main statements

* `Command.isQuiet_generate`: generating code is quiet.
* `produce_cases`: outputs are produced up to the first that is refused.
* `Refusal.message_names_output_iff`: which refusals are reported as such.
* `run_produces_outputs_in_order`: what a run leaves behind.
-/

namespace HeaderMock

/-! ## Quiet computations -/

/-- `w'` has the files of `w` and nothing more is printed. Some of the failures to come may have
been met. -/
structure SameOutputs (w w' : World) : Prop where
  files : w'.files = w.files
  stdout : w'.stdout = w.stdout
  failures : w'.failures <:+ w.failures

namespace SameOutputs

variable {w w' w'' : World}

theorem refl (w : World) : SameOutputs w w := ⟨rfl, rfl, List.suffix_rfl⟩

theorem trans (h : SameOutputs w w') (h' : SameOutputs w' w'') : SameOutputs w w'' :=
  ⟨h'.files.trans h.files, h'.stdout.trans h.stdout, h'.failures.trans h.failures⟩

end SameOutputs

namespace RunM

variable {α β : Type} {x : RunM α} {f : α → RunM β}

/-- The computation changes no file and prints nothing. -/
def IsQuiet (x : RunM α) : Prop := ∀ w, SameOutputs w (x.run.run w).2

theorem run_bind_of_ok {w w' : World} {a : α} (h : x.run.run w = (.ok a, w')) :
    (x >>= f).run.run w = (f a).run.run w' := by
  simp only [ExceptT.run_bind, StateT.run_bind, h]
  rfl

theorem run_bind_of_error {w w' : World} {fault : Fault} (h : x.run.run w = (.error fault, w')) :
    (x >>= f).run.run w = (.error fault, w') := by
  simp only [ExceptT.run_bind, StateT.run_bind, h]
  rfl

@[simp, grind =] theorem run_get (w : World) : (get : RunM World).run.run w = (.ok w, w) := rfl

@[simp, grind =] theorem run_ofExcept (x : Except Fault α) (w : World) :
    (ofReport (.ofExcept x)).run.run w = (x, w) := by
  have hevents : { w with events := w.events ++ [] } = w := by rw [List.append_nil]
  cases x with
  | ok a => exact congrArg (Prod.mk (Except.ok a)) hevents
  | error fault => exact congrArg (Prod.mk (Except.error fault)) hevents

@[simp, grind =] theorem run_request (w : World) :
    request.run.run w = (.ok w.nextFailure?, { w with failures := w.failures.tail }) := rfl

theorem run_readFile (fault : FileError → Fault) (path : String) (w : World) :
    (readFile fault path).run.run w =
      ((w.files.readUnless w.nextFailure? path).mapError (Fault.ofFile fault),
        { w with failures := w.failures.tail }) := by
  unfold readFile
  rw [run_bind_of_ok (run_request w), run_bind_of_ok (run_get _), run_ofExcept]

theorem isQuiet_pure (a : α) : IsQuiet (pure a) := fun w => .refl w

theorem isQuiet_throw (fault : Fault) : IsQuiet (throw fault : RunM α) := fun w => .refl w

theorem isQuiet_get : IsQuiet (get : RunM World) := fun w => .refl w

theorem IsQuiet.bind (hx : IsQuiet x) (hf : ∀ a, IsQuiet (f a)) : IsQuiet (x >>= f) := by
  intro w
  have hsame := hx w
  rcases hrun : x.run.run w with ⟨result, w'⟩
  rw [hrun] at hsame
  cases result with
  | error fault =>
    rw [run_bind_of_error hrun]
    exact hsame
  | ok a =>
    rw [run_bind_of_ok hrun]
    exact hsame.trans (hf a w')

theorem isQuiet_modify {g : World → World} (h : ∀ w, SameOutputs w (g w)) :
    IsQuiet (modify g : RunM Unit) := h

theorem isQuiet_emit (e : Event) : IsQuiet (emit e) :=
  isQuiet_modify fun _ => ⟨rfl, rfl, List.suffix_rfl⟩

theorem isQuiet_ofReport (r : Report α) : IsQuiet (ofReport r) := by
  refine IsQuiet.bind (isQuiet_modify fun _ => ⟨rfl, rfl, List.suffix_rfl⟩) fun _ => ?_
  cases r.result with
  | ok a => exact isQuiet_pure a
  | error fault => exact isQuiet_throw fault

theorem isQuiet_request : IsQuiet request := fun w => ⟨rfl, rfl, List.tail_suffix w.failures⟩

theorem isQuiet_readFile (fault : FileError → Fault) (path : String) :
    IsQuiet (readFile fault path) :=
  isQuiet_request.bind fun _ => isQuiet_get.bind fun _ => isQuiet_ofReport _

end RunM

open RunM

theorem isQuiet_setLibraryFile (file : String) : IsQuiet (setLibraryFile file) := by
  refine isQuiet_get.bind fun w => ?_
  split
  · exact isQuiet_emit _
  · exact isQuiet_modify fun _ => ⟨rfl, rfl, List.suffix_rfl⟩

theorem isQuiet_parseHeaderFile (parser : Parser) (path : String) (flags : List String) :
    IsQuiet (parseHeaderFile parser path flags) := by
  refine (isQuiet_readFile _ _).bind fun source => ?_
  refine (isQuiet_ofReport _).bind fun call => ?_
  refine IsQuiet.bind (isQuiet_modify fun _ => ⟨rfl, rfl, List.suffix_rfl⟩) fun _ => ?_
  exact isQuiet_ofReport _

/-- Code is generated before anything is written. -/
theorem Command.isQuiet_generate (c : Command) (parser : Parser) :
    IsQuiet (c.generate parser) := by
  -- What follows the check of the library file is the same in all of its cases.
  have hrest : IsQuiet (do
      let config ← RunM.ofReport
        (.ofExcept ((Config.build c.underlying c.byParameter c.byType).mapError Fault.config))
      let flags := compilerFlags c.isCpp (c.std.bind OptValue.text?)
        (c.includePaths.map OptValue.shown) ++ c.flags
      let unit ← parseHeaderFile parser c.input flags
      let generated ← RunM.ofReport (unit.generate config)
      if generated.mocks = [] then throw (.nothingMockable c.input)
      return generated) := by
    refine (isQuiet_ofReport _).bind fun config => ?_
    refine (isQuiet_parseHeaderFile _ _ _).bind fun unit => ?_
    refine (isQuiet_ofReport _).bind fun generated => ?_
    split
    · exact (isQuiet_throw _).bind fun _ => isQuiet_pure _
    · exact isQuiet_pure generated
  unfold generate
  split
  · exact (isQuiet_throw _).bind fun _ => hrest
  · exact (isQuiet_throw _).bind fun _ => hrest
  · exact (isQuiet_setLibraryFile _).bind fun _ => hrest

/-! ## Outputs -/

/-- A text and the path where it goes. -/
structure Output where
  path : String
  content : String
  deriving Repr, DecidableEq

namespace Output

def isPrinted (o : Output) : Bool := o.path == standardOutput

/-- The output is the file at `loc`. -/
def goesTo (o : Output) (t : FileTree) (loc : Location) : Bool :=
  !o.isPrinted && (t.absolute o.path).names == loc

/-- What outputs leave at `loc`; the last one to go there counts. -/
def filed? (outputs : List Output) (t : FileTree) (loc : Location) : Option Node :=
  (outputs.reverse.find? (·.goesTo t loc)).map fun o => .file o.content

/-- All that is printed. -/
def printed (outputs : List Output) : String :=
  String.join ((outputs.filter isPrinted).map (·.content))

variable {os os' : List Output} {t t' : FileTree} {loc : Location}

@[simp, grind =] theorem filed?_append :
    filed? (os ++ os') t loc = (filed? os' t loc).or (filed? os t loc) := by
  simp only [filed?, List.reverse_append, List.find?_append, Option.map_or]

theorem filed?_congr (h : t.SameDirs t') : filed? os t' loc = filed? os t loc := by
  have hgoes : (fun o : Output => o.goesTo t' loc) = fun o => o.goesTo t loc := by
    funext o
    simp only [goesTo, h.absolute_eq]
  simp only [filed?, hgoes]

@[simp, grind =] theorem printed_append : printed (os ++ os') = printed os ++ printed os' := by
  simp only [printed, List.filter_append, List.map_append, String.join_append]

end Output

/-- `w'` has the outputs that `w` lacks, each of them complete, and no other difference in its files
and in what is printed. -/
structure Produced (outputs : List Output) (w w' : World) : Prop where
  sameDirs : w.files.SameDirs w'.files
  node? (loc : Location) :
    w'.files.node? loc = (Output.filed? outputs w.files loc).or (w.files.node? loc)
  stdout : w'.stdout = w.stdout ++ Output.printed outputs
  failures : w'.failures <:+ w.failures

namespace Produced

variable {o : Output} {os os' : List Output} {w w' w'' : World}

theorem nil (h : SameOutputs w w') : Produced [] w w' where
  sameDirs := h.files ▸ .refl _
  node? _ := h.files ▸ rfl
  stdout := by simp [h.stdout, Output.printed]
  failures := h.failures

theorem append (h : Produced os w w') (h' : Produced os' w' w'') :
    Produced (os ++ os') w w'' where
  sameDirs := h.sameDirs.trans h'.sameDirs
  node? loc := by
    rw [h'.node?, h.node?, Output.filed?_congr h.sameDirs, Output.filed?_append, Option.or_assoc]
  stdout := by rw [h'.stdout, h.stdout, Output.printed_append, String.append_assoc]
  failures := h'.failures.trans h.failures

theorem printed (h : o.isPrinted = true) (hfiles : w'.files = w.files)
    (hstdout : w'.stdout = w.stdout ++ o.content) (hfailures : w'.failures <:+ w.failures) :
    Produced [o] w w' where
  sameDirs := hfiles ▸ .refl _
  node? loc := by simp [Output.filed?, Output.goesTo, h, hfiles]
  stdout := by simp [hstdout, Output.printed, h, String.join]
  failures := hfailures

theorem filed (h : o.isPrinted = false)
    (hfiles : w.files.Gains (w.files.absolute o.path).names o.content w'.files)
    (hstdout : w'.stdout = w.stdout) (hfailures : w'.failures <:+ w.failures) :
    Produced [o] w w' where
  sameDirs := hfiles.sameDirs
  node? loc := by
    by_cases hloc : loc = (w.files.absolute o.path).names
    · subst hloc
      simp [Output.filed?, Output.goesTo, h, hfiles.node?_self]
    · simp [Output.filed?, Output.goesTo, h, Ne.symm hloc, hfiles.node?_of_ne hloc]
  stdout := by simp [hstdout, Output.printed, h, String.join]
  failures := hfailures

end Produced

/-! ## Refusals -/

/-- Why an output is not produced as a whole. -/
inductive Refusal where
  /-- Its path cannot be opened. -/
  | badPath (error : FileError)
  /-- The operating system fails to open the file, to write it, or to print. -/
  | system (failure : Failure)
  deriving Repr, DecidableEq

/-- Why an output is refused, if it is. -/
def World.refusal? (w : World) (o : Output) : Option Refusal :=
  if o.isPrinted then w.nextFailure?.map .system
  else
    match w.files.locateForWriting o.path with
    | .error e => some (.badPath e)
    | .ok _ => w.nextFailure?.map .system

@[simp, grind =] theorem Fault.message_printingFailed (error : SystemError) :
    (Fault.printingFailed error).message =
      "[Errno " ++ toString error.code ++ "] " ++ error.text := rfl

@[simp, grind =] theorem Fault.message_unwritableOutput (path : String) (e : FileError) :
    (Fault.unwritableOutput path e).message =
      "Output file '" ++ path ++ "' could not be opened: " ++ e.message := rfl

@[simp, grind =] theorem Fault.message_nullInPath :
    Fault.nullInPath.message = "embedded null byte" := rfl

namespace Refusal

/-- How a refusal is reported. -/
def fault (o : Output) : Refusal → Fault
  | .badPath e => Fault.ofFile (.unwritableOutput o.path) e
  | .system failure =>
    if o.isPrinted then .printingFailed failure.error
    else .unwritableOutput o.path (.system failure.error)

/-- What is there of an output that is refused: nothing, or a start of it. -/
def left (o : Output) : Refusal → List Output
  | .badPath _ => []
  | .system failure => (failure.leaves o.content).toList.map ({ o with content := · })

variable {o : Output} {r : Refusal} {w : World}

/-- A message names the output that is refused, unless this is printed or its path holds a null
character. -/
theorem message_names_output_iff (h : w.refusal? o = some r) :
    "Output file '".toList <+: (r.fault o).message.toList ↔
      o.isPrinted = false ∧ '\x00' ∉ o.path.toList := by
  unfold World.refusal? at h
  cases hprinted : o.isPrinted with
  | true =>
    simp only [hprinted, if_true, Option.map_eq_some_iff] at h
    obtain ⟨failure, -, rfl⟩ := h
    simp [fault, hprinted]
  | false =>
    rw [hprinted, if_neg Bool.false_ne_true] at h
    rw [← FileTree.locateForWriting_eq_nullInPath_iff (t := w.files)]
    cases hlocate : w.files.locateForWriting o.path with
    | ok loc =>
      simp only [hlocate, Option.map_eq_some_iff] at h
      obtain ⟨failure, -, rfl⟩ := h
      simp [fault, hprinted]
    | error e =>
      obtain rfl : .badPath e = r := by simpa [hlocate] using h
      by_cases he : e = .nullInPath
      · subst he
        simp [fault, Fault.ofFile]
      · simp [fault, Fault.ofFile_of_ne he, he]

end Refusal

/-! ## Producing outputs -/

/-- Writes or prints outputs, one after another. -/
def produce : List Output → RunM Unit
  | [] => pure ()
  | o :: os => do
    writeOutput o.path o.content
    produce os

theorem run_writeOutput_printed {o : Output} (h : o.isPrinted = true) (w : World) :
    (writeOutput o.path o.content).run.run w =
      match w.nextFailure? with
      | none => (.ok (), { w with
          stdout := w.stdout ++ o.content
          failures := w.failures.tail })
      | some failure => (.error (.printingFailed failure.error), { w with
          stdout := w.stdout ++ (failure.leaves o.content).getD ""
          failures := w.failures.tail }) := by
  have hpath : o.path = standardOutput := by simpa [Output.isPrinted] using h
  rw [writeOutput, run_bind_of_ok (run_request w), if_pos hpath]
  cases w.nextFailure? <;> rfl

theorem run_writeOutput_filed {o : Output} (h : o.isPrinted = false) (w : World) :
    (writeOutput o.path o.content).run.run w =
      match w.files.write o.path o.content w.nextFailure? with
      | (.ok (), files) => (.ok (), { w with
          files
          failures := w.failures.tail
          events := w.events ++ [.generated o.path] })
      | (.error e, files) => (.error (Fault.ofFile (.unwritableOutput o.path) e), { w with
          files
          failures := w.failures.tail }) := by
  have hpath : o.path ≠ standardOutput := by simpa [Output.isPrinted] using h
  rw [writeOutput, run_bind_of_ok (run_request w), if_neg hpath, run_bind_of_ok (run_get _)]
  rcases w.files.write o.path o.content w.nextFailure? with ⟨⟨e⟩ | ⟨⟩, files⟩ <;> rfl

/-- An output that is not refused is produced; otherwise only what is left of it is there. -/
theorem writeOutput_cases (o : Output) (w : World) :
    ∃ w', match w.refusal? o with
      | none => (writeOutput o.path o.content).run.run w = (.ok (), w') ∧ Produced [o] w w'
      | some r =>
        (writeOutput o.path o.content).run.run w = (.error (r.fault o), w') ∧
          Produced (r.left o) w w' := by
  have htail : w.failures.tail <:+ w.failures := List.tail_suffix _
  unfold World.refusal?
  cases hprinted : o.isPrinted with
  | true =>
    rw [run_writeOutput_printed hprinted]
    cases hfailure : w.nextFailure? with
    | none => exact ⟨_, rfl, .printed hprinted rfl rfl htail⟩
    | some failure =>
      refine ⟨_, by rw [Refusal.fault, if_pos hprinted], ?_⟩
      cases hleaves : failure.leaves o.content with
      | none => simpa [Refusal.left, hleaves] using .nil ⟨rfl, rfl, htail⟩
      | some start =>
        rw [Refusal.left, hleaves]
        exact .printed hprinted rfl rfl htail
  | false =>
    rw [run_writeOutput_filed hprinted]
    cases hlocate : w.files.locateForWriting o.path with
    | error e =>
      rw [FileTree.write_of_error hlocate]
      exact ⟨_, rfl, .nil ⟨rfl, rfl, htail⟩⟩
    | ok loc =>
      have hgains := FileTree.gains_of_locateForWriting hlocate
      cases hfailure : w.nextFailure? with
      | none =>
        rw [FileTree.write_none hlocate]
        exact ⟨_, rfl, .filed hprinted (hgains _) rfl htail⟩
      | some failure =>
        rw [FileTree.write_some hlocate]
        refine ⟨_, by simp only [Refusal.fault, hprinted]; rfl, ?_⟩
        cases hleaves : failure.leaves o.content with
        | none =>
          rw [Refusal.left, hleaves]
          exact .nil ⟨rfl, rfl, htail⟩
        | some start =>
          rw [Refusal.left, hleaves]
          exact .filed hprinted (hgains _) rfl htail

/-- Outputs are produced up to the first that is refused, of which there is what is left of it. -/
theorem produce_cases (os : List Output) (w : World) :
    (∃ w', (produce os).run.run w = (.ok (), w') ∧ Produced os w w') ∨
      ∃ done o rest mid r w', os = done ++ o :: rest ∧ Produced done w mid ∧
        mid.refusal? o = some r ∧ (produce os).run.run w = (.error (r.fault o), w') ∧
        Produced (r.left o) mid w' := by
  induction os generalizing w with
  | nil => exact .inl ⟨w, rfl, .nil (.refl w)⟩
  | cons o os ih =>
    obtain ⟨w', hcases⟩ := writeOutput_cases o w
    cases hrefusal : w.refusal? o with
    | some r =>
      rw [hrefusal] at hcases
      obtain ⟨hrun, hleft⟩ := hcases
      exact .inr ⟨[], o, os, w, r, w', rfl, .nil (.refl w), hrefusal,
        by rw [produce, run_bind_of_error hrun], hleft⟩
    | none =>
      rw [hrefusal] at hcases
      obtain ⟨hrun, hstep⟩ := hcases
      obtain ⟨w'', hrest, hos⟩ | ⟨done, o', rest, mid, r, w'', rfl, hdone, hr, hrest, hleft⟩ :=
        ih w'
      · exact .inl ⟨w'', by rw [produce, run_bind_of_ok hrun, hrest], hstep.append hos⟩
      · exact .inr ⟨o :: done, o', rest, mid, r, w'', rfl, hstep.append hdone, hr,
          by rw [produce, run_bind_of_ok hrun, hrest], hleft⟩

theorem produce_append (os os' : List Output) :
    produce (os ++ os') = produce os >>= fun _ => produce os' := by
  induction os with
  | nil => simp [produce]
  | cons o os ih => simp [produce, ih]

/-! ## The outputs of a command -/

/-- The user code of the mock file at a path, if there is one. -/
def World.userCode (w : World) (path : String) : Except Fault String :=
  if path ≠ standardOutput ∧ w.files.isFile path then
    ((w.files.readUnless w.nextFailure? path).mapError (Fault.ofFile (.unreadableFile path))).map
      UserCode.extract
  else .ok ""

namespace Command

/-- The mock file, if it is wanted. -/
def mockOutputs (c : Command) (w : World) (unit : GeneratedUnit) : Except Fault (List Output) :=
  match c.mockOutput with
  | none => .ok []
  | some output =>
    let path := mockPath w.files output c.input
    (w.userCode path).map fun userCode =>
      [⟨path, unit.mockFile c.input c.isCpp c.recorded.render userCode⟩]

/-- The header and the source of the expectations, if they are wanted. -/
def expectOutputs (c : Command) (t : FileTree) (unit : GeneratedUnit) : List Output :=
  match c.expectOutput with
  | none => []
  | some output =>
    let (header, source) := expectPaths t output c.input
    [⟨header, unit.expectHeader c.input c.isCpp c.recorded.render⟩,
      ⟨source, unit.expectSource header c.recorded.render⟩]

/-- All that a command has to produce, in this order. -/
def outputs (c : Command) (w : World) (unit : GeneratedUnit) : Except Fault (List Output) :=
  (c.mockOutputs w unit).map (· ++ c.expectOutputs w.files unit)

/-- Where the expectations go does not depend on the mock file. -/
theorem expectOutputs_congr {t t' : FileTree} (h : t.SameDirs t') (c : Command)
    (unit : GeneratedUnit) : c.expectOutputs t' unit = c.expectOutputs t unit := by
  have hnames (path : String) : namesDirectory t' path = namesDirectory t path := by
    rw [namesDirectory, namesDirectory, h.isDir_eq]
  simp only [expectOutputs, expectPaths, hnames]

end Command

theorem run_keptUserCode (path : String) (w : World) :
    ∃ w', SameOutputs w w' ∧ (keptUserCode path).run.run w = (w.userCode path, w') := by
  unfold keptUserCode World.userCode
  rw [run_bind_of_ok (run_get w)]
  by_cases h : path ≠ standardOutput ∧ w.files.isFile path
  · rw [if_pos h, if_pos h]
    refine ⟨{ w with failures := w.failures.tail }, ⟨rfl, rfl, List.tail_suffix _⟩, ?_⟩
    have hrun := run_readFile (.unreadableFile path) path w
    cases hread : (w.files.readUnless w.nextFailure? path).mapError
        (Fault.ofFile (.unreadableFile path)) with
    | error fault =>
      rw [hread] at hrun
      rw [run_bind_of_error hrun]
      rfl
    | ok text =>
      rw [hread] at hrun
      rw [run_bind_of_ok hrun]
      rfl
  · rw [if_neg h, if_neg h]
    exact ⟨w, .refl w, rfl⟩

namespace Command

/-- The mock file is produced once the user code of an earlier one is known. -/
theorem run_writeMock (c : Command) (unit : GeneratedUnit) (w : World) :
    ∃ w', SameOutputs w w' ∧ (c.writeMock unit).run.run w =
      match c.mockOutputs w unit with
      | .error fault => (.error fault, w')
      | .ok os => (produce os).run.run w' := by
  unfold writeMock mockOutputs
  cases c.mockOutput with
  | none => exact ⟨w, .refl w, rfl⟩
  | some output =>
    simp only
    rw [run_bind_of_ok (run_get w)]
    obtain ⟨w', hsame, hrun⟩ := run_keptUserCode (mockPath w.files output c.input) w
    refine ⟨w', hsame, ?_⟩
    cases hcode : w.userCode (mockPath w.files output c.input) with
    | error fault =>
      rw [hcode] at hrun
      rw [run_bind_of_error hrun]
      rfl
    | ok userCode =>
      rw [hcode] at hrun
      rw [run_bind_of_ok hrun]
      simp [produce]

theorem run_writeExpectations (c : Command) (unit : GeneratedUnit) (w : World) :
    (c.writeExpectations unit).run.run w = (produce (c.expectOutputs w.files unit)).run.run w := by
  unfold writeExpectations expectOutputs
  cases c.expectOutput with
  | none => rfl
  | some output =>
    simp only
    rw [run_bind_of_ok (run_get w)]
    simp [produce]

/-- Once the code is generated, a run produces its outputs. -/
theorem run_writeAll (c : Command) (unit : GeneratedUnit) (w : World) :
    ∃ w', SameOutputs w w' ∧
      (do c.writeMock unit; c.writeExpectations unit : RunM Unit).run.run w =
        match c.outputs w unit with
        | .error fault => (.error fault, w')
        | .ok os => (produce os).run.run w' := by
  obtain ⟨w', hsame, hmock⟩ := c.run_writeMock unit w
  refine ⟨w', hsame, ?_⟩
  unfold outputs
  cases hos : c.mockOutputs w unit with
  | error fault =>
    rw [hos] at hmock
    rw [run_bind_of_error hmock]
    rfl
  | ok os =>
    simp only [hos] at hmock
    simp only [Except.map, produce_append]
    obtain ⟨w'', hrun, hproduced⟩ | ⟨-, o, -, -, r, w'', -, -, -, hrun, -⟩ := produce_cases os w'
    -- The expectations are placed after the mock file is written, which has made no directory.
    · rw [run_bind_of_ok (hmock.trans hrun), run_bind_of_ok hrun, run_writeExpectations,
        expectOutputs_congr hproduced.sameDirs, hsame.files]
    · rw [run_bind_of_error (hmock.trans hrun), run_bind_of_error hrun]

end Command

/-- What a run leaves behind, however the operating system fails it. Where it succeeds, these are
all outputs and no other change. Where it fails before all outputs are known, neither a file nor
standard output has changed; where it fails later, the outputs in front of one that is refused are
complete, and of this one there is what the refusal has left. The message names it if it is a file
whose path has no null character, and only then. -/
theorem run_produces_outputs_in_order (c : Command) (parser : Parser) (w : World) :
    match (c.run parser).run.run w with
    | (.ok (), after) =>
      ∃ unit mid outputs, (c.generate parser).run.run w = (.ok unit, mid) ∧
        c.outputs mid unit = .ok outputs ∧ Produced outputs w after
    | (.error fault, after) =>
      ((((c.generate parser).run.run w).1 = .error fault ∨
          ∃ unit mid, (c.generate parser).run.run w = (.ok unit, mid) ∧
            c.outputs mid unit = .error fault) ∧
        after.files = w.files ∧ after.stdout = w.stdout) ∨
      ∃ unit mid done failing rest stop refusal,
        (c.generate parser).run.run w = (.ok unit, mid) ∧
        c.outputs mid unit = .ok (done ++ failing :: rest) ∧
        Produced done w stop ∧ stop.refusal? failing = some refusal ∧
        Produced (done ++ refusal.left failing) w after ∧ fault = refusal.fault failing ∧
        ("Output file '".toList <+: fault.message.toList ↔
          failing.isPrinted = false ∧ '\x00' ∉ failing.path.toList) := by
  have hquiet := c.isQuiet_generate parser w
  rcases hgenerate : (c.generate parser).run.run w with ⟨result, mid⟩
  rw [hgenerate] at hquiet
  unfold Command.run
  cases result with
  | error fault =>
    rw [run_bind_of_error hgenerate]
    exact .inl ⟨.inl rfl, hquiet.files, hquiet.stdout⟩
  | ok unit =>
    obtain ⟨start, hstart, hrun⟩ := c.run_writeAll unit mid
    have hbefore : SameOutputs w start := hquiet.trans hstart
    rw [run_bind_of_ok hgenerate, hrun]
    cases houtputs : c.outputs mid unit with
    | error fault => exact .inl ⟨.inr ⟨unit, mid, rfl, houtputs⟩, hbefore.files, hbefore.stdout⟩
    | ok outputs =>
      obtain ⟨after, hproduce, hall⟩ |
        ⟨done, failing, rest, stop, refusal, after, rfl, hdone, hrefusal, hproduce, hleft⟩ :=
          produce_cases outputs start
      · simp only [hproduce]
        exact ⟨unit, mid, outputs, rfl, houtputs, (Produced.nil hbefore).append hall⟩
      · simp only [hproduce]
        have hstop : Produced done w stop := (Produced.nil hbefore).append hdone
        exact .inr ⟨unit, mid, done, failing, rest, stop, refusal, rfl, houtputs, hstop, hrefusal,
          hstop.append hleft, rfl, Refusal.message_names_output_iff hrefusal⟩

/-- Runs that fail halfway through their outputs. Where the path of the expectations holds a null
character or standard output breaks, the mock file is new and the message names no output. Where the
disk is full once the mock file is open, what it held is gone. -/
theorem run_fails_halfway :
    let f : DeclInfo :=
      { kind := .routine .function, spelling := "f", file := some "h.hpp"
        result := { kind := .void, spelling := "void" } }
    let run (expectOutput : String) (failures : List (Option Failure)) :=
      let c : Command :=
        { input := "h.hpp", mockOutput := some "m.cpp", expectOutput := some expectOutput
          libraryFile := some (.text "libclang.so"), overrides := [], flags := [] }
      (c.run fun _ => { decls := [{ info := f }] }).run.run
        { files := { entries := [(["h.hpp"], .file "void f();"), (["m.cpp"], .file "old")] }
          failures }
    let pipeError : SystemError := { code := 32, text := "Broken pipe" }
    let diskError : SystemError := { code := 28, text := "No space left on device" }
    let nullPath := run "a\x00b" []
    let brokenPipe := run "@" [none, none, none, some { error := pipeError }]
    let fullDisk := run "@" [none, none, some { error := diskError, kept := some 0 }]
    (nullPath.1 = .error .nullInPath ∧
        ¬"Output file '".toList <+: Fault.nullInPath.message.toList ∧
        nullPath.2.files.node? ["m.cpp"] ≠ some (.file "old")) ∧
      (brokenPipe.1 = .error (.printingFailed pipeError) ∧
        ¬"Output file '".toList <+: (Fault.printingFailed pipeError).message.toList ∧
        brokenPipe.2.files.node? ["m.cpp"] ≠ some (.file "old")) ∧
      fullDisk.1 = .error (.unwritableOutput "m.cpp" (.system diskError)) ∧
        fullDisk.2.files.node? ["m.cpp"] = some (.file "") := by
  decide +kernel

end HeaderMock

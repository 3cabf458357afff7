import HeaderMock.Proofs.CommandLine.Scan
import HeaderMock.Proofs.FileTree.Spelling
import HeaderMock.Proofs.Sequencing
import Mathlib.Data.List.Perm.Basic

/-!
# Inclusion of configuration files

Arguments are expanded to the depth-first inlining of the configuration files that they reach. Every
file is read once, where it is named first, and its words stand in the place of the option. Files
may name themselves or each other; the search ends since it reads no file twice.

## Main definitions

* `ConfigFile.Reachable`: the paths that arguments lead to, through any number of files.
* `ConfigFile.Unreadable`: a file without words under all of its paths.
* `ConfigFile.Inlines`: the inlining, file by file.
* `ConfigFile.Fails`: an inlining that stops at a file without words.
* `ConfigFile.Expansion`: what is known of an inlining and of the files that it opened.

## Main statements

* `ConfigFile.inlines_or_fails`: one of the two is the case.
* `ConfigFile.Inlines.expandFrames`, `ConfigFile.Fails.expandFrames`: the expansion follows both.
* `ConfigFile.Refuses.unreadable`: which path leads to a file does not matter, lengths apart.
* `ConfigFile.expand_inlines_reachable`: an expansion fails exactly where a reachable file has no
  words, and otherwise inlines all reachable files.
-/

namespace HeaderMock.ConfigFile

/-- The file at `path` can be read, and `items` are the parts of its words. -/
def Holds (t : FileTree) (path : String) (items : List Item) : Prop :=
  ∃ words, readWords t path = .ok words ∧ Scans words items

/-- The file at `path` cannot be opened, or its text cannot be cut into words; `fault` says so. -/
def Refuses (t : FileTree) (path : String) (fault : Fault) : Prop :=
  (∃ e, t.read path = .error e ∧ fault = .unreadableConfigFile path) ∨
    ∃ text e, t.read path = .ok text ∧ ShellWords.split text = .error e ∧
      fault = .malformedConfigFile path e

/-- The paths that `items` from the directory `base` lead to. Names in a file start from the
directory of the file. -/
inductive Reachable (t : FileTree) (base : String) (items : List Item) : String → Prop
  | named {name : String} : .file name ∈ items → Reachable t base items (place base name)
  | included {path name : String} {inner : List Item} :
      Reachable t base items path → Holds t path inner → .file name ∈ inner →
        Reachable t base items (place (Path.dirName path) name)

/-- None of the paths that lead to `file` can be opened and cut into words. -/
def Unreadable (t : FileTree) (base : String) (items : List Item) (file : AbsolutePath) : Prop :=
  ∀ path, Reachable t base items path → t.absolute path = file → ∃ fault, Refuses t path fault

/-- Of the paths that lead to one file, all are short enough to be followed or none is. -/
def LengthsAgree (t : FileTree) (base : String) (items : List Item) : Prop :=
  ∀ path path', Reachable t base items path → Reachable t base items path' →
    t.absolute path = t.absolute path' → path.utf8ByteSize ≤ FileTree.maxPath →
      path'.utf8ByteSize ≤ FileTree.maxPath

/-- A file that was opened, and the parts of its words. -/
structure Opened where
  path : String
  items : List Item
  deriving Repr, DecidableEq

/-- The files that were opened, the latest first. -/
def files (t : FileTree) (opened : List Opened) : List AbsolutePath :=
  (opened.map fun o => t.absolute o.path).reverse

/-- The depth-first inlining of `items` from the directory `base`, where the files in `seen` have
been read: the words that come of it, and the files that are opened for it. -/
inductive Inlines (t : FileTree) :
    List AbsolutePath → String → List Item → List String → List Opened → Prop
  | nil {seen base} : Inlines t seen base [] [] []
  | word {seen base text items out opened} :
      Inlines t seen base items out opened →
        Inlines t seen base (.word text :: items) (text :: out) opened
  | repeated {seen base name items out opened} :
      t.absolute (place base name) ∈ seen → Inlines t seen base items out opened →
        Inlines t seen base (.file name :: items) out opened
  | fresh {seen base name items inner out out' opened opened'} :
      t.absolute (place base name) ∉ seen → Holds t (place base name) inner →
      Inlines t (t.absolute (place base name) :: seen) (Path.dirName (place base name)) inner out
        opened →
      Inlines t (files t opened ++ t.absolute (place base name) :: seen) base items out' opened' →
        Inlines t seen base (.file name :: items) (out ++ out')
          (⟨place base name, inner⟩ :: opened ++ opened')

/-- An inlining that comes to a file without words. -/
inductive Fails (t : FileTree) : List AbsolutePath → String → List Item → Fault → Prop
  | word {seen base text items fault} :
      Fails t seen base items fault → Fails t seen base (.word text :: items) fault
  | repeated {seen base name items fault} :
      t.absolute (place base name) ∈ seen → Fails t seen base items fault →
        Fails t seen base (.file name :: items) fault
  | refused {seen base name items fault} :
      t.absolute (place base name) ∉ seen → readWords t (place base name) = .error fault →
        Fails t seen base (.file name :: items) fault
  | inner {seen base name items inner fault} :
      t.absolute (place base name) ∉ seen → Holds t (place base name) inner →
      Fails t (t.absolute (place base name) :: seen) (Path.dirName (place base name)) inner fault →
        Fails t seen base (.file name :: items) fault
  | outer {seen base name items inner out opened fault} :
      t.absolute (place base name) ∉ seen → Holds t (place base name) inner →
      Inlines t (t.absolute (place base name) :: seen) (Path.dirName (place base name)) inner out
        opened →
      Fails t (files t opened ++ t.absolute (place base name) :: seen) base items fault →
        Fails t seen base (.file name :: items) fault

/-! ## Every inlining ends -/

variable {t : FileTree} {seen : List AbsolutePath} {base : String} {items : List Item}

@[grind =] theorem readWords_eq_ok_iff {path : String} {words : List String} :
    readWords t path = .ok words ↔
      ∃ text, t.read path = .ok text ∧ ShellWords.split text = .ok words := by
  unfold readWords
  cases t.read path <;> simp

theorem Holds.exists_read {path : String} (h : Holds t path items) :
    ∃ text, t.read path = .ok text := by
  obtain ⟨words, hw, -⟩ := h
  obtain ⟨text, hr, -⟩ := readWords_eq_ok_iff.mp hw
  exact ⟨text, hr⟩

theorem unread_append_le (t : FileTree) (seen seen' : List AbsolutePath) :
    unread t (seen' ++ seen) ≤ unread t seen := by
  unfold unread
  refine (List.monotone_filter_right _ fun file h => ?_).length_le
  simp_all

/-- Reading a file leaves fewer to be read. -/
theorem unread_cons_lt_of_holds {path : String} (hs : t.absolute path ∉ seen)
    (h : Holds t path items) : unread t (t.absolute path :: seen) < unread t seen := by
  obtain ⟨text, hr⟩ := h.exists_read
  exact unread_cons_lt (mem_filePaths_of_read hr) (by simpa using hs)

theorem inlines_or_fails (t : FileTree) (seen : List AbsolutePath) (base : String)
    (items : List Item) :
    (∃ out opened, Inlines t seen base items out opened) ∨
      ∃ fault, Fails t seen base items fault := by
  match items with
  | [] => exact .inl ⟨_, _, .nil⟩
  | .word text :: items =>
    rcases inlines_or_fails t seen base items with ⟨out, opened, h⟩ | ⟨fault, h⟩
    · exact .inl ⟨_, _, h.word⟩
    · exact .inr ⟨_, h.word⟩
  | .file name :: items =>
    by_cases hs : t.absolute (place base name) ∈ seen
    · rcases inlines_or_fails t seen base items with ⟨out, opened, h⟩ | ⟨fault, h⟩
      · exact .inl ⟨_, _, h.repeated hs⟩
      · exact .inr ⟨_, h.repeated hs⟩
    cases hw : readWords t (place base name) with
    | error fault => exact .inr ⟨_, .refused hs hw⟩
    | ok words =>
      have hholds : Holds t (place base name) (scan words) := ⟨words, hw, scans_scan words⟩
      have hlt := unread_cons_lt_of_holds hs hholds
      rcases inlines_or_fails t (t.absolute (place base name) :: seen)
        (Path.dirName (place base name)) (scan words) with ⟨out, opened, h⟩ | ⟨fault, h⟩
      swap
      · exact .inr ⟨_, .inner hs hholds h⟩
      have hle := unread_append_le t (t.absolute (place base name) :: seen) (files t opened)
      rcases inlines_or_fails t (files t opened ++ t.absolute (place base name) :: seen) base items
        with ⟨out', opened', h'⟩ | ⟨fault, h'⟩
      · exact .inl ⟨_, _, .fresh hs hholds h h'⟩
      · exact .inr ⟨_, .outer hs hholds h h'⟩
termination_by (unread t seen, items.length)
decreasing_by
  · exact .right _ (by simp)
  · exact .right _ (by simp)
  · exact .left _ _ hlt
  · exact .left _ _ (by omega)

/-! ## The expansion follows the inlining -/

/-- A report after earlier events and earlier words. -/
def after (events : List Event) (out : List String) (r : Report (List String)) :
    Report (List String) :=
  { events := events ++ r.events, result := r.result.map (out ++ ·) }

@[simp, grind =] theorem after_after (events events' : List Event) (out out' : List String)
    (r : Report (List String)) :
    after events out (after events' out' r) = after (events ++ events') (out ++ out') r := by
  cases r with
  | mk es result => cases result <;> simp [after]

@[simp, grind =] theorem after_nil (r : Report (List String)) : after [] [] r = r := by
  cases r with
  | mk es result => cases result <;> simp [after]

theorem result_after_error {events : List Event} {out : List String} {r : Report (List String)}
    {fault : Fault} (h : r.result = .error fault) : (after events out r).result = .error fault := by
  simp [after, h]

theorem bind_return_cons (text : String) (r : Report (List String)) :
    (do let words ← r; return text :: words) = after [] [text] r := by
  cases r with
  | mk es result => cases result <;> simp [after, Except.map, bind, Report.bind, pure]

theorem emit_bind (e : Event) (r : Report (List String)) :
    (do Report.emit e; r) = after [e] [] r := by
  cases r with
  | mk es result => cases result <;> simp [after, Except.map, bind, Report.bind, Report.emit]

section Step

variable {args rest : List String} {arg name : String} {frames : List Frame}

theorem expandFrames_keep {text : String} (hn : next arg args = .keep text rest) :
    expandFrames t seen (⟨base, arg :: args⟩ :: frames) =
      after [] [text] (expandFrames t seen (⟨base, rest⟩ :: frames)) := by
  rw [expandFrames]
  split
  · next hn' =>
    obtain ⟨rfl, rfl⟩ := Next.keep.inj (hn.symm.trans hn')
    exact bind_return_cons _ _
  · next hn' => cases hn.symm.trans hn'

theorem expandFrames_file (hn : next arg args = .file name rest) :
    expandFrames t seen (⟨base, arg :: args⟩ :: frames) =
      match inclusion t seen (place base name) with
      | .refused fault => after [.readingConfigFile (place base name)] [] (Report.fail fault)
      | .repeated => expandFrames t seen (⟨base, rest⟩ :: frames)
      | .fresh words => after [.readingConfigFile (place base name)] []
        (expandFrames t (t.absolute (place base name) :: seen)
          (⟨Path.dirName (place base name), words⟩ :: ⟨base, rest⟩ :: frames)) := by
  rw [expandFrames]
  split
  · next hn' => cases hn.symm.trans hn'
  · next hn' =>
    obtain ⟨rfl, rfl⟩ := Next.file.inj (hn.symm.trans hn')
    dsimp only
    split
    · next hi => rw [hi, emit_bind]
    · next hi => rw [hi]
    · next hi => rw [hi, emit_bind]

theorem inclusion_of_mem {path : String} (h : t.absolute path ∈ seen) :
    inclusion t seen path = .repeated := by
  rw [inclusion, if_pos (by simpa using h)]

theorem inclusion_of_error {path : String} {fault : Fault} (h : t.absolute path ∉ seen)
    (hw : readWords t path = .error fault) : inclusion t seen path = .refused fault := by
  rw [inclusion, if_neg (by simpa using h), hw]

theorem inclusion_of_ok {path : String} {words : List String} (h : t.absolute path ∉ seen)
    (hw : readWords t path = .ok words) : inclusion t seen path = .fresh words := by
  rw [inclusion, if_neg (by simpa using h), hw]

end Step

theorem files_cons_append (t : FileTree) (o : Opened) (opened opened' : List Opened)
    (seen : List AbsolutePath) :
    files t (o :: opened ++ opened') ++ seen =
      files t opened' ++ (files t opened ++ t.absolute o.path :: seen) := by
  simp [files]

def Opened.event (o : Opened) : Event := .readingConfigFile o.path

/-- What is inlined comes first, and the frames below know the files that were opened. -/
theorem Inlines.expandFrames {out : List String} {opened : List Opened}
    (h : Inlines t seen base items out opened) {args : List String} (hscan : Scans args items)
    (frames : List Frame) :
    ConfigFile.expandFrames t seen (⟨base, args⟩ :: frames) =
      after (opened.map Opened.event) out
        (ConfigFile.expandFrames t (files t opened ++ seen) frames) := by
  induction h generalizing args frames with
  | nil =>
    obtain rfl := hscan.of_nil
    rw [ConfigFile.expandFrames]
    exact (after_nil _).symm
  | word _ ih =>
    obtain ⟨arg, args', rest, rfl, hn, hrest⟩ := hscan.next_word
    rw [expandFrames_keep hn, ih hrest, after_after]
    rfl
  | repeated hs _ ih =>
    obtain ⟨arg, args', rest, rfl, hn, hrest⟩ := hscan.next_file
    rw [expandFrames_file hn, inclusion_of_mem hs]
    exact ih hrest frames
  | fresh hs hholds _ _ ih ih' =>
    obtain ⟨arg, args', rest, rfl, hn, hrest⟩ := hscan.next_file
    obtain ⟨words, hw, hinner⟩ := hholds
    rw [expandFrames_file hn, inclusion_of_ok hs hw]
    dsimp only
    rw [ih hinner, ih' hrest, after_after, after_after, files_cons_append]
    simp [Opened.event]

/-- Where an inlining fails, so does the expansion. -/
theorem Fails.expandFrames {fault : Fault} (h : Fails t seen base items fault) {args : List String}
    (hscan : Scans args items) (frames : List Frame) :
    (ConfigFile.expandFrames t seen (⟨base, args⟩ :: frames)).result = .error fault := by
  induction h generalizing args frames with
  | word _ ih =>
    obtain ⟨arg, args', rest, rfl, hn, hrest⟩ := hscan.next_word
    rw [expandFrames_keep hn]
    exact result_after_error (ih hrest frames)
  | repeated hs _ ih =>
    obtain ⟨arg, args', rest, rfl, hn, hrest⟩ := hscan.next_file
    rw [expandFrames_file hn, inclusion_of_mem hs]
    exact ih hrest frames
  | refused hs hw =>
    obtain ⟨arg, args', rest, rfl, hn, hrest⟩ := hscan.next_file
    rw [expandFrames_file hn, inclusion_of_error hs hw]
    rfl
  | inner hs hholds _ ih =>
    obtain ⟨arg, args', rest, rfl, hn, hrest⟩ := hscan.next_file
    obtain ⟨words, hw, hinner⟩ := hholds
    rw [expandFrames_file hn, inclusion_of_ok hs hw]
    exact result_after_error (ih hinner _)
  | outer hs hholds h _ ih =>
    obtain ⟨arg, args', rest, rfl, hn, hrest⟩ := hscan.next_file
    obtain ⟨words, hw, hinner⟩ := hholds
    rw [expandFrames_file hn, inclusion_of_ok hs hw]
    dsimp only
    rw [h.expandFrames hinner]
    exact result_after_error (result_after_error (ih hrest frames))

theorem expand_of_inlines {out args : List String} {opened : List Opened}
    (h : Inlines t [] base items out opened) (hscan : Scans args items) :
    expand t base args = { events := opened.map Opened.event, result := .ok out } := by
  rw [expand, h.expandFrames hscan, expandFrames]
  simp [after]

/-- Arguments that name no file stay as they are. -/
theorem expand_of_words {args : List String}
    (h : ∀ arg ∈ args, ¬IsOption arg ∧ ∀ name, ¬Joins arg name) :
    expand t base args = pure args := by
  have hscan : Scans args (args.map .word) := by
    induction args with
    | nil => exact .nil
    | cons arg args ih =>
      obtain ⟨ho, hj⟩ := h arg (by simp)
      exact .word ho hj (ih fun other hmem => h other (by simp [hmem]))
  have hinlines : Inlines t [] base (args.map .word) args [] := by
    clear h hscan
    induction args with
    | nil => exact .nil
    | cons arg args ih => exact ih.word
  exact expand_of_inlines hinlines hscan

/-! ## What is opened -/

theorem Reachable.mono {items' : List Item} {path : String} (h : Reachable t base items path)
    (hsub : ∀ name, .file name ∈ items → .file name ∈ items') : Reachable t base items' path := by
  induction h with
  | named hmem => exact .named (hsub _ hmem)
  | included _ hholds hmem ih => exact .included ih hholds hmem

/-- What a reachable file leads to is reachable. -/
theorem Reachable.trans {path path' : String} {inner : List Item} (h : Reachable t base items path)
    (hholds : Holds t path inner) (h' : Reachable t (Path.dirName path) inner path') :
    Reachable t base items path' := by
  induction h' with
  | named hmem => exact .included h hholds hmem
  | included _ hholds' hmem ih => exact .included ih hholds' hmem

theorem Reachable.exists_normalize {path : String} (h : Reachable t base items path) :
    ∃ spelled, path = Path.normalize spelled := by
  cases h <;> exact ⟨_, rfl⟩

theorem Inlines.holds_and_reachable {out : List String} {opened : List Opened}
    (h : Inlines t seen base items out opened) :
    ∀ o ∈ opened, Holds t o.path o.items ∧ Reachable t base items o.path := by
  induction h with
  | nil => simp
  | word _ ih | repeated _ _ ih =>
    exact fun o ho => ⟨(ih o ho).1, (ih o ho).2.mono fun name hmem => by simp [hmem]⟩
  | @fresh _ base name items inner _ _ _ _ hs hholds _ _ ih ih' =>
    have hnamed : Reachable t base (.file name :: items) (place base name) := .named (by simp)
    intro o ho
    rcases List.mem_append.mp ho with ho | ho
    · rcases List.mem_cons.mp ho with rfl | ho
      · exact ⟨hholds, hnamed⟩
      · exact ⟨(ih o ho).1, hnamed.trans hholds (ih o ho).2⟩
    · exact ⟨(ih' o ho).1, (ih' o ho).2.mono fun name hmem => by simp [hmem]⟩

/-- No file is opened twice, or after it was read before. -/
theorem Inlines.nodup {out : List String} {opened : List Opened}
    (h : Inlines t seen base items out opened) (hseen : seen.Nodup) :
    (files t opened ++ seen).Nodup := by
  induction h with
  | nil => simpa [files] using hseen
  | word _ ih | repeated _ _ ih => exact ih hseen
  | fresh hs _ _ _ ih ih' =>
    rw [files_cons_append]
    exact ih' (ih (List.nodup_cons.mpr ⟨hs, hseen⟩))

/-- The files that are named were read before or are opened. -/
theorem Inlines.closed {out : List String} {opened : List Opened}
    (h : Inlines t seen base items out opened) :
    (∀ name, .file name ∈ items → t.absolute (place base name) ∈ files t opened ++ seen) ∧
      ∀ o ∈ opened, ∀ name, .file name ∈ o.items →
        t.absolute (place (Path.dirName o.path) name) ∈ files t opened ++ seen := by
  induction h with
  | nil => simp
  | word _ ih => exact ⟨fun name hmem => ih.1 name (by simpa using hmem), ih.2⟩
  | repeated hs _ ih =>
    refine ⟨fun name hmem => ?_, ih.2⟩
    rcases List.mem_cons.mp hmem with heq | hmem
    · obtain rfl := Item.file.inj heq
      simp [hs]
    · exact ih.1 name hmem
  | @fresh seen base name items inner _ _ opened opened' hs hholds _ _ ih ih' =>
    rw [files_cons_append]
    refine ⟨fun other hmem => ?_, fun o ho other hmem => ?_⟩
    · rcases List.mem_cons.mp hmem with heq | hmem
      · obtain rfl := Item.file.inj heq
        simp
      · exact ih'.1 other hmem
    · rcases List.mem_append.mp ho with ho | ho
      · rcases List.mem_cons.mp ho with rfl | ho
        · exact List.mem_append_right _ (ih.1 other hmem)
        · exact List.mem_append_right _ (ih.2 o ho other hmem)
      · exact ih'.2 o ho other hmem

/-- One file has the same parts under each of its paths. -/
theorem Holds.unique {path path' : String} {items' : List Item} (h : Holds t path items)
    (h' : Holds t path' items') (heq : t.absolute path = t.absolute path') : items = items' := by
  obtain ⟨words, hw, hscan⟩ := h
  obtain ⟨words', hw', hscan'⟩ := h'
  obtain ⟨text, hr, hsplit⟩ := readWords_eq_ok_iff.mp hw
  obtain ⟨text', hr', hsplit'⟩ := readWords_eq_ok_iff.mp hw'
  obtain ⟨content, hnode, rfl⟩ := FileTree.node?_of_read hr
  obtain ⟨content', hnode', rfl⟩ := FileTree.node?_of_read hr'
  obtain rfl : content = content' := by simpa [heq, hnode'] using hnode.symm
  obtain rfl : words = words' := by simpa [hsplit] using hsplit'
  exact hscan.unique hscan'

/-- A reachable file ends in a name. -/
theorem Reachable.isName_baseName {path : String} {inner : List Item}
    (h : Reachable t base items path) (hholds : Holds t path inner) :
    Path.IsName (Path.baseName path) := by
  obtain ⟨spelled, rfl⟩ := h.exists_normalize
  obtain ⟨text, hr⟩ := hholds.exists_read
  exact Path.isName_baseName_of_read hr

/-- Every reachable file is opened. -/
theorem Inlines.mem_files {out : List String} {opened : List Opened}
    (h : Inlines t [] base items out opened) {path : String} (hp : Reachable t base items path) :
    t.absolute path ∈ files t opened := by
  obtain ⟨hnamed, hincluded⟩ := h.closed
  induction hp with
  | named hmem => simpa using hnamed _ hmem
  | @included path name inner hpath hholds hmem ih =>
    obtain ⟨o, ho, habs⟩ : ∃ o ∈ opened, t.absolute o.path = t.absolute path := by
      simpa [files] using ih
    obtain ⟨hholds', hreach⟩ := h.holds_and_reachable o ho
    obtain rfl := hholds'.unique hholds habs
    -- The name was followed from the path that the file was opened with.
    have hsame := Path.absolute_sibling habs (hreach.isName_baseName hholds')
      (hpath.isName_baseName hholds) name
    rw [place, Path.absolute_normalize, ← hsame]
    simpa [place] using hincluded o ho name hmem

/-- An inlining fails at a reachable file. -/
theorem Fails.exists_reachable {fault : Fault} (h : Fails t seen base items fault) :
    ∃ path, Reachable t base items path ∧ readWords t path = .error fault := by
  induction h with
  | word _ ih | repeated _ _ ih =>
    obtain ⟨path, hp, hw⟩ := ih
    exact ⟨path, hp.mono fun name hmem => by simp [hmem], hw⟩
  | refused _ hw => exact ⟨_, .named (by simp), hw⟩
  | inner _ hholds _ ih =>
    obtain ⟨path, hp, hw⟩ := ih
    exact ⟨path, Reachable.trans (.named (by simp)) hholds hp, hw⟩
  | outer _ _ _ _ ih =>
    obtain ⟨path, hp, hw⟩ := ih
    exact ⟨path, hp.mono fun name hmem => by simp [hmem], hw⟩

/-! ## What is inlined -/

def Item.word? : Item → Option String
  | .word text => some text
  | .file _ => none

/-- The words among some parts. -/
def kept (items : List Item) : List String := items.filterMap Item.word?

/-- Every word of the arguments and of the files that are opened is inlined once. -/
theorem Inlines.perm {out : List String} {opened : List Opened}
    (h : Inlines t seen base items out opened) :
    out.Perm (kept items ++ opened.flatMap fun o => kept o.items) := by
  induction h with
  | nil => simp [kept]
  | word _ ih => simpa [kept, Item.word?] using ih
  | repeated _ _ ih => exact ih
  | @fresh _ base name items inner _ _ opened opened' _ _ _ _ ih ih' =>
    refine (ih.append ih').trans ?_
    -- The words of the arguments move before those of the files.
    have hswap : (kept inner ++ opened.flatMap (fun o => kept o.items) ++ kept items).Perm
        (kept items ++ (kept inner ++ opened.flatMap fun o => kept o.items)) :=
      List.perm_append_comm
    rw [show kept (.file name :: items) = kept items from rfl]
    simpa using hswap.append_right (opened'.flatMap fun o => kept o.items)

/-- The words of the arguments, and of each file, stay in their order. -/
theorem Inlines.sublist {out : List String} {opened : List Opened}
    (h : Inlines t seen base items out opened) :
    (kept items).Sublist out ∧ ∀ o ∈ opened, (kept o.items).Sublist out := by
  induction h with
  | nil => simp [kept]
  | word _ ih =>
    exact ⟨ih.1.cons_cons _, fun o ho => (ih.2 o ho).cons _⟩
  | repeated _ _ ih => exact ih
  | fresh _ _ _ _ ih ih' =>
    refine ⟨ih'.1.trans (List.sublist_append_right _ _), fun o ho => ?_⟩
    rcases List.mem_append.mp ho with ho | ho
    · rcases List.mem_cons.mp ho with rfl | ho
      · exact ih.1.trans (List.sublist_append_left _ _)
      · exact (ih.2 o ho).trans (List.sublist_append_left _ _)
    · exact (ih'.2 o ho).trans (List.sublist_append_right _ _)

@[simp, grind =] theorem mem_kept {text : String} : text ∈ kept items ↔ .word text ∈ items := by
  induction items with
  | nil => simp [kept]
  | cons item items ih => cases item <;> simp_all [kept, Item.word?, eq_comm]

/-- A word that is left and looks like naming a file is an option at the end of its source. -/
theorem Inlines.of_option_mem {out args : List String} {opened : List Opened}
    (h : Inlines t seen base items out opened) (hscan : Scans args items) {text : String}
    (htext : text ∈ out) (hoption : IsOption text ∨ ∃ name, Joins text name) :
    IsOption text ∧ (items.getLast? = some (.word text) ∨
      ∃ o ∈ opened, o.items.getLast? = some (.word text)) := by
  have hlast {args : List String} {items : List Item} (hscan : Scans args items)
      (hmem : text ∈ kept items) : IsOption text ∧ items.getLast? = some (.word text) := by
    rcases hscan.of_word_mem (mem_kept.mp hmem) with ⟨hno, hnj⟩ | h
    · rcases hoption with ho | ⟨name, hj⟩
      · exact absurd ho hno
      · exact absurd hj (hnj name)
    · exact h
  rcases List.mem_append.mp (h.perm.mem_iff.mp htext) with hmem | hmem
  · obtain ⟨ho, hl⟩ := hlast hscan hmem
    exact ⟨ho, .inl hl⟩
  · obtain ⟨o, ho, hmem⟩ := List.mem_flatMap.mp hmem
    obtain ⟨⟨words, -, hscan'⟩, -⟩ := h.holds_and_reachable o ho
    obtain ⟨hoption, hl⟩ := hlast hscan' hmem
    exact ⟨hoption, .inr ⟨o, ho, hl⟩⟩

/-! ## Files without words -/

theorem refuses_of_error {path : String} {fault : Fault} (hnull : '\x00' ∉ path.toList)
    (h : readWords t path = .error fault) : Refuses t path fault := by
  unfold readWords at h
  cases hr : t.read path with
  | error e =>
    have he : e ≠ .nullInPath := by
      rintro rfl
      exact hnull (FileTree.read_eq_nullInPath_iff.mp hr)
    simp only [hr, Fault.ofFile_of_ne he, Except.error.injEq] at h
    exact .inl ⟨e, hr, h.symm⟩
  | ok text =>
    cases hsplit : ShellWords.split text with
    | ok words => simp [hr, hsplit] at h
    | error e =>
      simp only [hr, hsplit, Except.mapError, Except.error.injEq] at h
      exact .inr ⟨text, e, hr, hsplit, h.symm⟩

theorem Refuses.not_holds {path : String} {fault : Fault} (h : Refuses t path fault) :
    ¬Holds t path items := by
  rintro ⟨words, hw, -⟩
  obtain ⟨text, hr, hsplit⟩ := readWords_eq_ok_iff.mp hw
  rcases h with ⟨e, hr', -⟩ | ⟨text', e, hr', hsplit', -⟩
  · simp [hr] at hr'
  · obtain rfl : text = text' := by simpa [hr] using hr'
    simp [hsplit] at hsplit'

/-- An inlining reads each reachable file through one of its paths. -/
theorem Inlines.not_unreadable {out : List String} {opened : List Opened}
    (h : Inlines t [] base items out opened) {path : String} (hp : Reachable t base items path) :
    ¬Unreadable t base items (t.absolute path) := by
  intro hun
  obtain ⟨o, ho, heq⟩ : ∃ o ∈ opened, t.absolute o.path = t.absolute path := by
    simpa [files] using h.mem_files hp
  obtain ⟨hholds, hreach⟩ := h.holds_and_reachable o ho
  obtain ⟨fault, hr⟩ := hun o.path hreach heq
  exact hr.not_holds hholds

/-- A reachable file holds the same under a second path that can be followed. -/
theorem Holds.of_absolute_eq {path path' : String} {inner : List Item}
    (hholds : Holds t path inner) (hcwd : t.NamesCwd) (hp : Reachable t base items path)
    (hp' : Reachable t base items path') (h : t.absolute path = t.absolute path')
    (hnull : '\x00' ∉ path'.toList) (hlength : path.utf8ByteSize ≤ FileTree.maxPath →
      path'.utf8ByteSize ≤ FileTree.maxPath) :
    Holds t path' inner := by
  obtain ⟨spelled, rfl⟩ := hp.exists_normalize
  obtain ⟨spelled', rfl⟩ := hp'.exists_normalize
  obtain ⟨words, hw, hscan⟩ := hholds
  obtain ⟨text, hr, hsplit⟩ := readWords_eq_ok_iff.mp hw
  have hcheck : FileTree.checkPath (Path.normalize spelled) = .ok () := by
    simp only [FileTree.read, FileTree.locate, bind_eq_ok_iff] at hr
    obtain ⟨_, ⟨_, hcheck, -⟩, -⟩ := hr
    exact hcheck
  have hcheck' : FileTree.checkPath (Path.normalize spelled') = .ok () :=
    FileTree.checkPath_eq_ok_iff.mpr ⟨Path.normalize_ne_empty spelled', hnull,
      hlength (FileTree.checkPath_eq_ok_iff.mp hcheck).2.2⟩
  rw [FileTree.read_normalize_congr hcwd h hcheck hcheck'] at hr
  exact ⟨words, readWords_eq_ok_iff.mpr ⟨text, hr, hsplit⟩, hscan⟩

/-- A file that is refused under one of its paths is refused under all of them. -/
theorem Refuses.unreadable {path : String} {fault : Fault} (hr : Refuses t path fault)
    (hcwd : t.NamesCwd) (hlength : LengthsAgree t base items)
    (hnull : ∀ path, Reachable t base items path → '\x00' ∉ path.toList)
    (hp : Reachable t base items path) : Unreadable t base items (t.absolute path) := by
  intro path' hp' heq
  cases hw : readWords t path' with
  | error fault' => exact ⟨fault', refuses_of_error (hnull path' hp') hw⟩
  | ok words =>
    have hholds : Holds t path' (scan words) := ⟨words, hw, scans_scan words⟩
    exact absurd (hholds.of_absolute_eq hcwd hp' hp heq (hnull path hp)
      (hlength path' path hp' hp heq)) hr.not_holds

/-! ## The expansion of arguments -/

/-- What is known of an inlining of arguments and of the files that are opened for it. -/
structure Expansion (t : FileTree) (base : String) (items : List Item) (out : List String)
    (opened : List Opened) : Prop where
  /-- Each file stands where it is named first, and nothing stands where it is named again. -/
  inlines : Inlines t [] base items out opened
  once : (files t opened).Nodup
  /-- Exactly the reachable files are opened. -/
  reachable : ∀ file, file ∈ files t opened ↔
    ∃ path, Reachable t base items path ∧ t.absolute path = file
  words : out.Perm (kept items ++ opened.flatMap fun o => kept o.items)
  order : (kept items).Sublist out ∧ ∀ o ∈ opened, (kept o.items).Sublist out
  /-- The only options left that could name a file stand at the end of their source. -/
  options : ∀ text ∈ out, (IsOption text ∨ ∃ name, Joins text name) →
    IsOption text ∧ (items.getLast? = some (.word text) ∨
      ∃ o ∈ opened, o.items.getLast? = some (.word text))

theorem Inlines.expansion {out args : List String} {opened : List Opened}
    (h : Inlines t [] base items out opened) (hscan : Scans args items) :
    Expansion t base items out opened where
  inlines := h
  once := by simpa using h.nodup .nil
  reachable file := by
    refine ⟨fun hmem => ?_, fun ⟨path, hp, heq⟩ => heq ▸ h.mem_files hp⟩
    obtain ⟨o, ho, rfl⟩ : ∃ o ∈ opened, t.absolute o.path = file := by simpa [files] using hmem
    exact ⟨o.path, (h.holds_and_reachable o ho).2, rfl⟩
  words := h.perm
  order := h.sublist
  options _ htext hoption := h.of_option_mem hscan htext hoption

/-- Arguments are expanded to the inlining of all files that they reach, unless one of these cannot
be opened or cut into words. Where a file has several paths, the first one that is met counts. -/
theorem expand_inlines_reachable {args : List String} (hscan : Scans args items)
    (hnull : ∀ path, Reachable t base items path → '\x00' ∉ path.toList) :
    (∀ fault, (expand t base args).result = .error fault →
        ∃ path, Reachable t base items path ∧ Refuses t path fault) ∧
      (∀ path, Reachable t base items path → Unreadable t base items (t.absolute path) →
        ∃ fault, (expand t base args).result = .error fault) ∧
      (t.NamesCwd → LengthsAgree t base items →
        ((∃ fault, (expand t base args).result = .error fault) ↔
          ∃ path fault, Reachable t base items path ∧ Refuses t path fault)) ∧
      ∀ out, (expand t base args).result = .ok out →
        ∃ opened, Expansion t base items out opened ∧
          (expand t base args).events = opened.map Opened.event := by
  have hrefused : ∀ fault, (expand t base args).result = .error fault →
      ∃ path, Reachable t base items path ∧ Refuses t path fault := by
    intro fault hf
    rcases inlines_or_fails t [] base items with ⟨out, opened, h⟩ | ⟨fault', h⟩
    · simp [expand_of_inlines h hscan] at hf
    · obtain rfl : fault' = fault := by simpa [expand, h.expandFrames hscan] using hf
      obtain ⟨path, hp, hw⟩ := h.exists_reachable
      exact ⟨path, hp, refuses_of_error (hnull path hp) hw⟩
  have hlost : ∀ path, Reachable t base items path → Unreadable t base items (t.absolute path) →
      ∃ fault, (expand t base args).result = .error fault := by
    intro path hp hun
    rcases inlines_or_fails t [] base items with ⟨out, opened, h⟩ | ⟨fault, h⟩
    · exact absurd hun (h.not_unreadable hp)
    · exact ⟨fault, h.expandFrames hscan []⟩
  refine ⟨hrefused, hlost, fun hcwd hlength => ⟨?_, ?_⟩, fun out hout => ?_⟩
  · rintro ⟨fault, hf⟩
    obtain ⟨path, hp, hr⟩ := hrefused fault hf
    exact ⟨path, fault, hp, hr⟩
  · rintro ⟨path, fault, hp, hr⟩
    exact hlost path hp (hr.unreadable hcwd hlength hnull hp)
  · rcases inlines_or_fails t [] base items with ⟨out', opened, h⟩ | ⟨fault, h⟩
    · have hrun := expand_of_inlines h hscan
      obtain rfl : out' = out := by simpa [hrun] using hout
      exact ⟨opened, h.expansion hscan, by rw [hrun]⟩
    · simp [expand, h.expandFrames hscan] at hout

/-- Two files that name each other. -/
def cyclicTree : FileTree where
  cwd := ["work"]
  entries :=
    [(["work", "c.txt"], .file "-x --config-file=sub/d.txt -u"), (["work", "sub"], .dir),
      (["work", "sub", "d.txt"], .file "-s 'c++ 11' -f../c.txt -f")]

def cyclicItems : List Item := [.file "c.txt", .word "-m", .word "out"]

theorem reachable_cyclicTree {path : String} (h : Reachable cyclicTree "" cyclicItems path) :
    (path = "c.txt" ∧ Holds cyclicTree path [.word "-x", .file "sub/d.txt", .word "-u"]) ∨
      path = "sub/d.txt" ∧
        Holds cyclicTree path [.word "-s", .word "c++ 11", .file "../c.txt", .word "-f"] := by
  have hc : Holds cyclicTree "c.txt" [.word "-x", .file "sub/d.txt", .word "-u"] :=
    ⟨["-x", "--config-file=sub/d.txt", "-u"], by decide +kernel, by decide⟩
  have hd : Holds cyclicTree "sub/d.txt"
      [.word "-s", .word "c++ 11", .file "../c.txt", .word "-f"] :=
    ⟨["-s", "c++ 11", "-f../c.txt", "-f"], by decide +kernel, by decide⟩
  induction h with
  | named hmem =>
    obtain rfl : _ = "c.txt" := by simpa [cyclicItems] using hmem
    exact .inl ⟨by decide +kernel, hc⟩
  | included _ hholds hmem ih =>
    rcases ih with ⟨rfl, hown⟩ | ⟨rfl, hown⟩
    · obtain rfl := hholds.unique hown rfl
      obtain rfl : _ = "sub/d.txt" := by simpa using hmem
      exact .inr ⟨by decide +kernel, hd⟩
    · obtain rfl := hholds.unique hown rfl
      obtain rfl : _ = "../c.txt" := by simpa using hmem
      exact .inl ⟨by decide +kernel, hc⟩

theorem expand_inlines_reachable_cyclic :
    Scans ["-f", "c.txt", "-m", "out"] cyclicItems ∧
      (∀ path, Reachable cyclicTree "" cyclicItems path → '\x00' ∉ path.toList) ∧
      cyclicTree.NamesCwd ∧ LengthsAgree cyclicTree "" cyclicItems ∧
      ∃ out opened, (expand cyclicTree "" ["-f", "c.txt", "-m", "out"]).result = .ok out ∧
        Expansion cyclicTree "" cyclicItems out opened := by
  have hscan : Scans ["-f", "c.txt", "-m", "out"] cyclicItems := by decide
  have hcwd : cyclicTree.NamesCwd := by
    intro name hname
    obtain rfl : name = "work" := by simpa [cyclicTree] using hname
    exact ⟨by simp [Path.IsName], by decide⟩
  have hpath (path : String) (h : Reachable cyclicTree "" cyclicItems path) :
      '\x00' ∉ path.toList ∧ path.utf8ByteSize ≤ FileTree.maxPath := by
    rcases reachable_cyclicTree h with ⟨rfl, -⟩ | ⟨rfl, -⟩ <;> decide
  have hnull (path : String) (h : Reachable cyclicTree "" cyclicItems path) :
      '\x00' ∉ path.toList := (hpath path h).1
  have hlength : LengthsAgree cyclicTree "" cyclicItems := fun _ path' _ h _ _ => (hpath path' h).2
  obtain ⟨-, -, herror, hok⟩ := expand_inlines_reachable hscan hnull
  refine ⟨hscan, hnull, hcwd, hlength, ?_⟩
  cases hresult : (expand cyclicTree "" ["-f", "c.txt", "-m", "out"]).result with
  | error fault =>
    obtain ⟨path, _, hp, hr⟩ := (herror hcwd hlength).mp ⟨fault, hresult⟩
    rcases reachable_cyclicTree hp with ⟨-, hholds⟩ | ⟨-, hholds⟩ <;>
      exact absurd hholds hr.not_holds
  | ok out =>
    obtain ⟨opened, h, -⟩ := hok out hresult
    exact ⟨out, opened, rfl, h⟩

/-- A file that names one that no system call can take. -/
def nullTree : FileTree where
  cwd := ["work"]
  entries := [(["work", "c.txt"], .file "-f a\x00b")]

/-- A name with a null character is not refused as a file that cannot be opened. -/
theorem expand_null_name :
    Reachable nullTree "" [.file "c.txt"] "a\x00b" ∧ nullTree.read "a\x00b" = .error .nullInPath ∧
      (expand nullTree "" ["-f", "c.txt"]).result = .error .nullInPath ∧
      ∀ path, ¬Refuses nullTree path .nullInPath := by
  have hc : Holds nullTree "c.txt" [.file "a\x00b"] :=
    ⟨["-f", "a\x00b"], by decide +kernel, by decide⟩
  have hread : nullTree.read "a\x00b" = .error .nullInPath := by decide +kernel
  have hfails : Fails nullTree [] "" [.file "c.txt"] .nullInPath := by
    refine .inner (by simp) hc (.refused (by decide +kernel) ?_)
    decide +kernel
  have hnamed : Reachable nullTree "" [.file "c.txt"] "c.txt" :=
    .named (List.mem_singleton.mpr rfl)
  have hincluded : Reachable nullTree "" [.file "c.txt"] "a\x00b" :=
    hnamed.included hc (List.mem_singleton.mpr rfl)
  exact ⟨hincluded, hread, hfails.expandFrames (by decide) [], by simp [Refuses]⟩

end HeaderMock.ConfigFile

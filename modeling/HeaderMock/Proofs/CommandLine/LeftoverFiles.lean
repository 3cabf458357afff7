import HeaderMock.CommandLine.Command
import HeaderMock.Proofs.CommandLine.FileArguments
import HeaderMock.Proofs.CommandLine.Inclusion

/-!
# Configuration files that are left over

A command reads its configuration files before it reads its options. A file that is named only in
the eyes of the reader of options stays among the settings of the command, and is not read.

## Main definitions

* `Command.ReadFrom`: where the arguments of a command come from.

## Main statements

* `Reading.configFiles_of_readTokens`: the tokens that add a file.
* `Command.configFiles_eq_nil_iff`: the commands that leave no file over.
* `Command.named_file_not_read`: commands that leave one over.
-/

namespace HeaderMock

/-! ## Reading tokens -/

theorem Settings.configFiles_of_set {s s' : Settings} {value : OptValue} {opt : Opt}
    (h : s.set value opt = .ok s') :
    s'.configFiles = [] ↔ s.configFiles = [] ∧ opt ≠ .configFile := by
  cases opt <;> cases h <;> simp

theorem Settings.configFiles_of_flags {flags : List Opt} {s s' : Settings}
    (hflags : ∀ flag ∈ flags, flag.arity = .flag)
    (h : flags.foldlM (fun s flag => s.set .nothing flag) s = .ok s') :
    s'.configFiles = [] ↔ s.configFiles = [] := by
  induction flags generalizing s with
  | nil =>
    cases h
    rfl
  | cons flag flags ih =>
    rw [List.foldlM_cons] at h
    obtain ⟨s₁, hset, hrest⟩ := bind_eq_ok_iff.mp h
    have hne : flag ≠ .configFile := by
      rintro rfl
      cases hflags .configFile (by simp)
    rw [ih (fun other hother => hflags other (by simp [hother])) hrest, configFiles_of_set hset]
    simp [hne]

namespace Reading

theorem configFiles_of_apply {r r' : Reading} {joined : Joined} {value : OptValue}
    (hflags : ∀ flag ∈ joined.flags, flag.arity = .flag) (h : r.apply joined value = .ok r') :
    r'.settings.configFiles = [] ↔ r.settings.configFiles = [] ∧ joined.last ≠ .configFile := by
  simp only [apply, bind_eq_ok_iff, pure_eq_ok_iff] at h
  obtain ⟨s, hs, s', hs', rfl⟩ := h
  rw [Settings.configFiles_of_set hs', Settings.configFiles_of_flags hflags hs]

theorem configFiles_of_option {r r' : Reading} {opt : Opt} {spelling : String}
    {value? : Option String} {joined : Joined} {value : OptValue}
    (hjoined : Joined.ofOption opt spelling value? = .ok joined)
    (h : r.apply joined value = .ok r') :
    r'.settings.configFiles = [] ↔
      r.settings.configFiles = [] ∧ ¬(Token.option opt spelling value?).NamesFile := by
  rw [configFiles_of_apply (Joined.ofOption_flags hjoined) h]
  simp [Token.NamesFile, hjoined]

/-- Only options name configuration files, and no option is the value of another one. -/
theorem configFiles_of_readTokens {r r' : Reading} {tokens : List Token}
    (h : readTokens r tokens = .ok r') :
    r'.settings.configFiles = [] ↔
      r.settings.configFiles = [] ∧ ∀ token ∈ tokens, ¬token.NamesFile := by
  fun_induction readTokens r tokens with
  | case1 r =>
    cases h
    simp
  | case2 r w rest _ ih | case6 r rest _ ih | case7 r w rest ih =>
    simpa [leave, Token.NamesFile] using ih h
  | case3 r w _ rest ih | case4 r w _ rest _ ih | case5 r w rest _ ih =>
    simpa [Token.NamesFile] using ih h
  | case8 | case13 => cases h
  | case9 r opt spelling value? joined hjoined value rest _ ih
  | case10 r opt spelling value? joined hjoined rest _ _ ih
  | case11 r opt spelling value? joined hjoined value rest _ _ ih
  | case12 r opt spelling value? joined hjoined rest _ _ _ ih =>
    obtain ⟨r₁, happly, hread⟩ := bind_eq_ok_iff.mp h
    rw [ih r₁ hread, configFiles_of_option hjoined happly]
    simp [and_assoc, Token.NamesFile]

end Reading

/-! ## Commands -/

theorem ConfigFile.exists_expansion {t : FileTree} {base : String} {args out : List String}
    {items : List Item} (hscan : Scans args items) (h : (expand t base args).result = .ok out) :
    ∃ opened, Expansion t base items out opened := by
  rcases inlines_or_fails t [] base items with ⟨out', opened, hinlines⟩ | ⟨fault, hfails⟩
  · obtain rfl : out' = out := by simpa [expand_of_inlines hinlines hscan] using h
    exact ⟨opened, hinlines.expansion hscan⟩
  · simp [expand, hfails.expandFrames hscan] at h

theorem Arguments.configFiles_of_parse {defaults : Settings} {args : List String}
    {arguments : Arguments} (hdefaults : defaults.configFiles = [])
    (h : parse defaults args = .ok arguments) :
    arguments.configFiles = [] ↔
      ∀ arg ∈ args.takeWhile (· ≠ "--"), ¬ConfigFile.NamesFile arg := by
  simp only [parse, bind_eq_ok_iff, mapError_eq_ok_iff] at h
  obtain ⟨tokens, htokens, r, hr, h⟩ := h
  have hfiles := Reading.configFiles_of_readTokens hr
  rw [← Token.forall_not_namesFile_iff htokens]
  split at h
  · cases h
  · cases h
    simpa [hdefaults] using hfiles
  · cases h

namespace Command

open ConfigFile

/-- Where the arguments of a command come from: the command line with all configuration files in
their places, and the options of an earlier output if these are wanted. -/
structure ReadFrom (env : Environment) (t : FileTree) (args : List String)
    (items : List Item) (words : List String) (opened : List Opened)
    (recorded : List String) : Prop where
  scans : Scans args items
  expansion : Expansion t "" items words opened
  reuses : ∃ first, Arguments.parse env.defaults words = .ok first ∧
    if first.regen then (recordedWords first t).result = .ok recorded else recorded = []

theorem arguments_of_parse {env : Environment} {t : FileTree} {args : List String} {c : Command}
    (h : (parse env t args).result = .ok c) :
    ∃ words first, (expand t "" args).result = .ok words ∧
      Arguments.parse env.defaults words = .ok first ∧
      (withRecorded env.defaults t words first).result = .ok c.toArguments := by
  obtain ⟨words, hwords, h⟩ := Report.result_bind_eq_ok_iff.mp h
  obtain ⟨first, hfirst, h⟩ := Report.result_bind_eq_ok_iff.mp h
  obtain ⟨arguments, harguments, h⟩ := Report.result_bind_eq_ok_iff.mp h
  refine ⟨words, first, hwords, hfirst, ?_⟩
  split at h
  · cases h
  · obtain ⟨overrides, -, h⟩ := Report.result_bind_eq_ok_iff.mp h
    cases h
    exact harguments

theorem exists_readFrom {env : Environment} {t : FileTree} {args : List String} {c : Command}
    (h : (parse env t args).result = .ok c) :
    ∃ items words opened recorded, ReadFrom env t args items words opened recorded ∧
      Arguments.parse env.defaults (words ++ recorded) = .ok c.toArguments := by
  obtain ⟨words, first, hwords, hfirst, h⟩ := arguments_of_parse h
  have hscan := scans_scan args
  obtain ⟨opened, hexpansion⟩ := exists_expansion hscan hwords
  unfold withRecorded at h
  split at h
  · next hregen =>
    obtain ⟨recorded, hrecorded, h⟩ := Report.result_bind_eq_ok_iff.mp h
    have hreuses : if first.regen then (recordedWords first t).result = .ok recorded
        else recorded = [] := by simp [hregen, hrecorded]
    exact ⟨_, words, opened, recorded, ⟨hscan, hexpansion, first, hfirst, hreuses⟩, h⟩
  · next hregen =>
    cases h
    refine ⟨_, words, opened, [], ⟨hscan, hexpansion, c.toArguments, hfirst, by simp [hregen]⟩, ?_⟩
    simpa using hfirst

/-- A command has no configuration files left unless an argument in front of `--` names one for the
reader of options. Such arguments come from an earlier output, or they are abbreviations, bundles,
or options without a name at the end of the command line or of a file. -/
theorem configFiles_eq_nil_iff {env : Environment} {t : FileTree} {args : List String} {c : Command}
    (h : (parse env t args).result = .ok c) :
    ∃ items words opened recorded, ReadFrom env t args items words opened recorded ∧
      (c.configFiles = [] ↔
        ∀ arg ∈ (words ++ recorded).takeWhile (· ≠ "--"), ¬NamesFile arg) ∧
      ∀ arg ∈ words, NamesFile arg →
        Abbreviates arg ∨ Bundles arg ∨
          IsOption arg ∧ (items.getLast? = some (.word arg) ∨
            ∃ o ∈ opened, o.items.getLast? = some (.word arg)) := by
  obtain ⟨items, words, opened, recorded, hread, hparse⟩ := exists_readFrom h
  refine ⟨items, words, opened, recorded, hread, Arguments.configFiles_of_parse rfl hparse, ?_⟩
  intro arg harg hnames
  cases hnames with
  | separate hoption => exact .inr (.inr (hread.expansion.options arg harg (.inl hoption)))
  | joined hjoins => exact .inr (.inr (hread.expansion.options arg harg (.inr ⟨_, hjoins⟩)))
  | abbreviated habbreviates => exact .inl habbreviates
  | bundled hbundles => exact .inr (.inl hbundles)

/-! ## Files that are read and files that are not -/

/-- A command without options that need a closer look. -/
theorem parse_of_inlines {t : FileTree} {args words : List String} {items : List Item}
    {opened : List Opened} {arguments : Arguments}
    (hinlines : Inlines t [] "" items words opened)
    (hscan : Scans args items) (h : Arguments.parse {} words = .ok arguments)
    (hregen : arguments.regen = false) (hmock : arguments.mockOutput.isSome = true)
    (hoverrides : arguments.typeOverrides = []) :
    (parse {} t args).result = .ok { toArguments := arguments, overrides := [], flags := [] } := by
  refine Report.result_bind_eq_ok_iff.mpr
    ⟨words, by rw [expand_of_inlines hinlines hscan], ?_⟩
  refine Report.result_bind_eq_ok_iff.mpr ⟨arguments, h, ?_⟩
  refine Report.result_bind_eq_ok_iff.mpr ⟨arguments, by simp [withRecorded, hregen], ?_⟩
  obtain ⟨out, hout⟩ := Option.isSome_iff_exists.mp hmock
  simp [hout, Arguments.overrideTexts, hoverrides]
  rfl

/-- A command that writes the mock file `out` for `h.hpp`. -/
def sample : Command where
  input := "h.hpp"
  mockOutput := some "out"
  overrides := []
  flags := []

/-- A file that names another one. -/
def chainedTree : FileTree where
  cwd := ["work"]
  entries :=
    [(["work", "c.txt"], .file "-x --config-file=d.txt"), (["work", "d.txt"], .file "-u")]

theorem configFiles_eq_nil_iff_chained :
    (parse {} chainedTree ["h.hpp", "-m", "out", "-f", "c.txt"]).result =
        .ok { sample with cpp := true, underlying := true } ∧
      ∃ items words opened recorded,
        ReadFrom {} chainedTree ["h.hpp", "-m", "out", "-f", "c.txt"] items words opened recorded ∧
          ∀ arg ∈ (words ++ recorded).takeWhile (· ≠ "--"), ¬NamesFile arg := by
  have hc : Holds chainedTree (place "" "c.txt") [.word "-x", .file "d.txt"] :=
    ⟨["-x", "--config-file=d.txt"], by decide +kernel, by decide⟩
  have hd : Holds chainedTree (place (Path.dirName (place "" "c.txt")) "d.txt") [.word "-u"] :=
    ⟨["-u"], by decide +kernel, by decide⟩
  have hinner : Inlines chainedTree [chainedTree.absolute (place "" "c.txt")]
      (Path.dirName (place "" "c.txt")) [.word "-x", .file "d.txt"] ["-x", "-u"] _ :=
    .word (.fresh (by decide +kernel) hd (.word .nil) .nil)
  have hinlines : Inlines chainedTree [] ""
      [.word "h.hpp", .word "-m", .word "out", .file "c.txt"]
      ["h.hpp", "-m", "out", "-x", "-u"] _ :=
    .word (.word (.word (.fresh (by simp) hc hinner .nil)))
  have hparse : (parse {} chainedTree ["h.hpp", "-m", "out", "-f", "c.txt"]).result =
      .ok { sample with cpp := true, underlying := true } :=
    parse_of_inlines hinlines (by decide) (by decide +kernel) rfl rfl rfl
  obtain ⟨items, words, opened, recorded, hread, hiff, -⟩ := configFiles_eq_nil_iff hparse
  exact ⟨hparse, items, words, opened, recorded, hread, hiff.mp rfl⟩

/-- A file that ends in an option, and one that starts with a name. -/
def danglingTree : FileTree where
  cwd := ["work"]
  entries := [(["work", "c.txt"], .file "-f"), (["work", "d.txt"], .file "e.txt -x")]

/-- A file that an abbreviated option names is not read, nor is one whose name stands behind an
option at the end of another file. -/
theorem named_file_not_read :
    (parse {} chainedTree ["h.hpp", "-m", "out", "--config", "c.txt"]).result =
        .ok { sample with configFiles := [.text "c.txt"] } ∧
      (parse {} danglingTree ["h.hpp", "-m", "out", "-f", "c.txt", "-f", "d.txt"]).result =
        .ok { sample with configFiles := [.text "e.txt"], cpp := true } := by
  constructor
  · have hinlines : Inlines chainedTree [] ""
        [.word "h.hpp", .word "-m", .word "out", .word "--config", .word "c.txt"]
        ["h.hpp", "-m", "out", "--config", "c.txt"] [] :=
      .word (.word (.word (.word (.word .nil))))
    exact parse_of_inlines hinlines (by decide) (by decide +kernel) rfl rfl rfl
  · have hc : Holds danglingTree (place "" "c.txt") [.word "-f"] :=
      ⟨["-f"], by decide +kernel, by decide⟩
    have hd : Holds danglingTree (place "" "d.txt") [.word "e.txt", .word "-x"] :=
      ⟨["e.txt", "-x"], by decide +kernel, by decide⟩
    have hrest : Inlines danglingTree [danglingTree.absolute (place "" "c.txt")] ""
        [.file "d.txt"] ["e.txt", "-x"] _ :=
      .fresh (by decide +kernel) hd (.word (.word .nil)) .nil
    have hinlines : Inlines danglingTree [] ""
        [.word "h.hpp", .word "-m", .word "out", .file "c.txt", .file "d.txt"]
        ["h.hpp", "-m", "out", "-f", "e.txt", "-x"] _ :=
      .word (.word (.word (.fresh (by simp) hc (.word .nil) hrest)))
    exact parse_of_inlines hinlines (by decide) (by decide +kernel) rfl rfl rfl

end Command

end HeaderMock

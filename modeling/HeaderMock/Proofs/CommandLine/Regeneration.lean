import HeaderMock.CommandLine.Command
import HeaderMock.Proofs.CommandLine.Inclusion
import HeaderMock.Proofs.Output.Banner
import HeaderMock.Proofs.ShellWords

/-!
# Regeneration

The options that a generated file records are the options that it was generated with. A command that
asks for regeneration reads them from the file and comes to the same options again.

## Main definitions

* `GenerationOptions.args`: the arguments that set some options.
* `IsOutput`: the files that record some options.

## Main statements

* `GenerationOptions.split_render`: the recorded options are split into these arguments.
* `Reading.read_args`: reading these arguments sets the options.
* `generation_options_round_trip`: options survive being recorded and regenerated.
-/

namespace HeaderMock

open Text

/-! ## Recorded options -/

namespace GenerationOptions

/-- The language standard; an empty text names none. -/
def standard (o : GenerationOptions) : Option String := if o.std = some "" then none else o.std

theorem standard_cases (o : GenerationOptions) :
    (o.standard = none ∧ (o.std = none ∨ o.std = some "")) ∨
      ∃ std, std ≠ "" ∧ o.standard = some std ∧ o.std = some std := by
  unfold standard
  split
  · next h => exact .inl ⟨rfl, .inr h⟩
  · next h =>
    cases hstd : o.std with
    | none => exact .inl ⟨rfl, .inl rfl⟩
    | some std => exact .inr ⟨std, by simpa [hstd] using h, rfl, rfl⟩

/-- The arguments that set the options. -/
def args (o : GenerationOptions) : List String :=
  (if o.cpp then ["-x"] else []) ++ o.standard.toList.flatMap (fun std => ["-s", std]) ++
    (if o.underlying then ["-u"] else []) ++ o.overrides.flatMap fun option => ["-t", option]

/-- The texts among the options. -/
def texts (o : GenerationOptions) : List String := o.std.toList ++ o.overrides

theorem words_eq_map_quote (o : GenerationOptions) : o.words = o.args.map ShellWords.quote := by
  have hfixed : ShellWords.quote "-x" = "-x" ∧ ShellWords.quote "-s" = "-s" ∧
      ShellWords.quote "-u" = "-u" ∧ ShellWords.quote "-t" = "-t" := by decide
  obtain ⟨hx, hs, hu, ht⟩ := hfixed
  have hflag (b : Bool) {text : String} (h : ShellWords.quote text = text) :
      (if b then [text] else []).map ShellWords.quote = if b then [text] else [] := by
    cases b <;> simp [h]
  rcases o.standard_cases with ⟨h, hstd | hstd⟩ | ⟨std, hne, h, hstd⟩
  · simp [words, args, h, hstd, hflag, hx, hu, ht, List.map_flatMap]
  · simp [words, args, h, hstd, hflag, hx, hu, ht, List.map_flatMap]
  · simp [words, args, h, hstd, hne, hflag, hx, hs, hu, ht, List.map_flatMap]

theorem mem_texts_of_standard {o : GenerationOptions} {std : String} (h : o.standard = some std) :
    std ∈ o.texts := by
  rcases o.standard_cases with ⟨hnone, -⟩ | ⟨std', -, hsome, hstd⟩
  · simp [hnone] at h
  · obtain rfl : std' = std := by simpa [hsome] using h
    simp [texts, hstd]

theorem mem_args {o : GenerationOptions} {arg : String} (h : arg ∈ o.args) :
    arg ∈ ["-x", "-s", "-u", "-t"] ∨ arg ∈ o.texts := by
  simp only [args, List.mem_append, List.mem_flatMap] at h
  rcases h with ((h | ⟨std, hstd, h⟩) | h) | ⟨option, hoption, h⟩
  · split at h <;> simp_all
  · rcases List.mem_pair.mp h with rfl | rfl
    · simp
    · exact .inr (mem_texts_of_standard (by simpa using hstd))
  · split at h <;> simp_all
  · rcases List.mem_pair.mp h with rfl | rfl
    · simp
    · exact .inr (by simp [texts, hoption])

/-- The recorded options are split into the arguments that set them. -/
@[simp, grind =] theorem split_render (o : GenerationOptions) :
    ShellWords.split o.render = .ok o.args := by
  rw [render, words_eq_map_quote, ShellWords.split_quoted]

theorem mem_of_mem_quote {s : String} {c : Char} (h : c ∈ (ShellWords.quote s).toList) :
    c ∈ s.toList ∨ c = '\'' ∨ c = '"' := by
  unfold ShellWords.quote at h
  split at h
  · exact .inl h
  · simp only [ShellWords.quoteChars, String.toList_ofList, List.mem_append, List.mem_cons,
      List.mem_flatMap] at h
    rcases h with (rfl | ⟨d, hd, hc⟩) | rfl | h
    · simp
    · split at hc
      · have hmark : c ∈ ['\'', '"', '\'', '"', '\''] := hc
        simp at hmark
        tauto
      · obtain rfl : c = d := by simpa using hc
        exact .inl hd
    · simp
    · simp at h

theorem mem_of_mem_intercalate {ws : List String} {c : Char}
    (h : c ∈ (String.intercalate " " ws).toList) : c = ' ' ∨ ∃ w ∈ ws, c ∈ w.toList := by
  induction ws with
  | nil => simp at h
  | cons w ws ih =>
    cases ws with
    | nil => exact .inr ⟨w, by simp, by simpa using h⟩
    | cons w' ws =>
      rw [String.intercalate_cons_cons] at h
      simp only [String.toList_append, List.mem_append] at h
      rcases h with (h | h) | h
      · exact .inr ⟨w, by simp, h⟩
      · exact .inl (by simpa using h)
      · exact (ih h).imp_right fun ⟨u, hu, hc⟩ => ⟨u, by simp [hu], hc⟩

/-- Options without line ends are recorded on one line. -/
theorem isLineEnd_of_mem_render {o : GenerationOptions}
    (h : ∀ text ∈ o.texts, ∀ c ∈ text.toList, isLineEnd c = false) :
    ∀ c ∈ o.render.toList, isLineEnd c = false := by
  have hfixed : ∀ arg ∈ ["-x", "-s", "-u", "-t"], ∀ c ∈ arg.toList, isLineEnd c = false :=
    forall_isLineEnd_of_all (by decide)
  intro c hc
  rw [render, words_eq_map_quote] at hc
  rcases mem_of_mem_intercalate hc with rfl | ⟨_, hw, hc⟩
  · decide
  obtain ⟨arg, harg, rfl⟩ := List.mem_map.mp hw
  rcases mem_of_mem_quote hc with hc | rfl | rfl
  · exact (mem_args harg).elim (fun hmem => hfixed arg hmem c hc) fun hmem => h arg hmem c hc
  · decide
  · decide

end GenerationOptions

/-! ## Arguments that set options -/

/-- The argument is taken for an option or for something like one. -/
def IsDashed (arg : String) : Prop := startsWith arg "-" = true

instance (arg : String) : Decidable (IsDashed arg) := inferInstanceAs (Decidable (_ = true))

theorem ofText_of_not_isDashed {arg : String} (h : ¬IsDashed arg) :
    Token.ofText arg = .ok (.word arg) := by
  simp [Token.ofText, Bool.eq_false_iff.mpr h]

theorem ne_separator_of_not_isDashed {arg : String} (h : ¬IsDashed arg) : arg ≠ "--" := by
  rintro rfl
  exact h (by decide)

/-- The argument is the option as it stands. -/
def Spells (spelling : String) (opt : Opt) : Prop :=
  Token.ofText spelling = .ok (.option opt spelling none) ∧ spelling ≠ "--"

instance (spelling : String) (opt : Opt) : Decidable (Spells spelling opt) :=
  inferInstanceAs (Decidable (_ ∧ _))

/-- The settings with some options added. -/
def Settings.withOptions (s : Settings) (o : GenerationOptions) : Settings :=
  { s with
    cpp := s.cpp || o.cpp
    std := (o.standard.map .text).or s.std
    underlying := s.underlying || o.underlying
    typeOverrides := s.typeOverrides ++ o.overrides.map .text }

namespace Reading

variable {r : Reading} {opt : Opt} {spelling text : String} {settings : Settings}

/-- Reads the remaining arguments. -/
def read (r : Reading) (args : List String) : Except Fault Reading := do
  let tokens ← (Token.ofArgs args).mapError Fault.usage
  readTokens r tokens

theorem read_cons {arg : String} {token : Token} (h : Token.ofText arg = .ok token)
    (hne : arg ≠ "--") (args : List String) :
    r.read (arg :: args) =
      (Token.ofArgs args).mapError Fault.usage >>= fun tokens =>
        readTokens r (token :: tokens) := by
  simp only [read, Token.ofArgs, if_neg hne, h]
  cases Token.ofArgs args <;> rfl

theorem apply_single {value? : Option String} {value : OptValue}
    (h : r.settings.set value opt = .ok settings) :
    r.apply ⟨[], opt, value?⟩ value = .ok { r with settings } := by
  simp only [apply, List.foldlM_nil, pure_bind, h]
  rfl

/-- A flag is set, and reading goes on. -/
theorem read_flag (hspells : Spells spelling opt) (hflag : opt.arity = .flag)
    (h : r.settings.set .nothing opt = .ok settings) (args : List String) :
    r.read (spelling :: args) = { r with settings }.read args := by
  have hstep (tokens : List Token) : readTokens r (.option opt spelling none :: tokens) =
      readTokens { r with settings } tokens := by
    rw [readTokens]
    simp only [Joined.ofOption, hflag, apply_single h]
    rfl
  rw [read_cons hspells.1 hspells.2]
  simp only [hstep]
  rfl

/-- An option takes the word after it, and reading goes on. -/
theorem read_option (hspells : Spells spelling opt) (hvalue : opt.arity ≠ .flag)
    (htext : ¬IsDashed text) (h : r.settings.set (.text text) opt = .ok settings)
    (args : List String) : r.read (spelling :: text :: args) = { r with settings }.read args := by
  have hstep (tokens : List Token) :
      readTokens r (.option opt spelling none :: .word text :: tokens) =
        readTokens { r with settings } tokens := by
    rw [readTokens]
    cases harity : opt.arity with
    | flag => exact absurd harity hvalue
    | one | atMostOne =>
      simp only [Joined.ofOption, harity, apply_single h]
      rfl
  rw [read_cons hspells.1 hspells.2, Token.ofArgs, if_neg (ne_separator_of_not_isDashed htext),
    ofText_of_not_isDashed htext]
  cases htokens : Token.ofArgs args with
  | error e =>
    simp only [read, htokens]
    rfl
  | ok tokens =>
    simp only [read, htokens]
    exact hstep tokens

/-- The first word is the input. -/
theorem read_input (htext : ¬IsDashed text) (hspells : Spells spelling opt) (h : r.input? = none)
    (args : List String) :
    r.read (text :: spelling :: args) = { r with input? := some text }.read (spelling :: args) := by
  have hstep (tokens : List Token) :
      readTokens r (.word text :: .option opt spelling none :: tokens) =
        readTokens { r with input? := some text } (.option opt spelling none :: tokens) := by
    rw [readTokens, h]
    · rfl
    · simp
  rw [read_cons (ofText_of_not_isDashed htext) (ne_separator_of_not_isDashed htext),
    read_cons hspells.1 hspells.2, Token.ofArgs, if_neg hspells.2, hspells.1]
  cases Token.ofArgs args with
  | error e => rfl
  | ok tokens => exact hstep tokens

/-! ## Reading recorded options -/

theorem read_cpp (b : Bool) (args : List String) :
    r.read ((if b then ["-x"] else []) ++ args) =
      { r with settings := { r.settings with cpp := r.settings.cpp || b } }.read args := by
  cases b with
  | false => simp
  | true => simpa using read_flag (show Spells "-x" .cpp by decide) rfl rfl args

theorem read_underlying (b : Bool) (args : List String) :
    r.read ((if b then ["-u"] else []) ++ args) =
      { r with settings := { r.settings with underlying := r.settings.underlying || b } }.read
        args := by
  cases b with
  | false => simp
  | true => simpa using read_flag (show Spells "-u" .underlying by decide) rfl rfl args

theorem read_std {std? : Option String} (h : ∀ std ∈ std?, ¬IsDashed std) (args : List String) :
    r.read (std?.toList.flatMap (fun std => ["-s", std]) ++ args) =
      { r with settings :=
        { r.settings with std := (std?.map OptValue.text).or r.settings.std } }.read args := by
  cases std? with
  | none => simp
  | some std =>
    simpa using read_option (show Spells "-s" .std by decide) (by decide) (h std rfl) rfl args

theorem read_overrides {overrides : List String} (h : ∀ text ∈ overrides, ¬IsDashed text) :
    r.read (overrides.flatMap fun text => ["-t", text]) =
      .ok { r with settings :=
        { r.settings with typeOverrides := r.settings.typeOverrides ++ overrides.map .text } } := by
  induction overrides generalizing r with
  | nil =>
    simp only [List.flatMap_nil, List.map_nil, List.append_nil]
    rfl
  | cons text overrides ih =>
    have htext := read_option (r := r) (show Spells "-t" .typeOverride by decide) (by decide)
      (h text (by simp)) rfl (overrides.flatMap fun text => ["-t", text])
    rw [List.flatMap_cons, List.cons_append, List.singleton_append, htext,
      ih fun other hother => h other (by simp [hother])]
    simp

/-- Reading the arguments of some options adds the options. -/
theorem read_args {o : GenerationOptions} (h : ∀ text ∈ o.texts, ¬IsDashed text) :
    r.read o.args = .ok { r with settings := r.settings.withOptions o } := by
  have hstd : ∀ std ∈ o.standard, ¬IsDashed std := fun std hmem =>
    h std (GenerationOptions.mem_texts_of_standard hmem)
  have hoverrides : ∀ text ∈ o.overrides, ¬IsDashed text := fun text hmem =>
    h text (by simp [GenerationOptions.texts, hmem])
  rw [GenerationOptions.args, List.append_assoc, List.append_assoc, read_cpp, read_std hstd,
    read_underlying, read_overrides hoverrides]
  rfl

end Reading

theorem parse_eq_ok {defaults settings : Settings} {args : List String} {input : String}
    (h : Reading.read { settings := defaults } args = .ok { settings, input? := some input }) :
    Arguments.parse defaults args = .ok { settings with input } := by
  obtain ⟨tokens, htokens, hread⟩ := bind_eq_ok_iff.mp h
  simp only [Arguments.parse, htokens, hread, bind, Except.bind]

/-- An input and an output are read, and then the arguments after them. -/
theorem read_regeneration {settings : Settings} {input out : String} (hinput : ¬IsDashed input)
    (hout : ¬IsDashed out) (args : List String) :
    Reading.read { settings } ([input, "-m", out, "-r"] ++ args) =
      Reading.read { settings := { settings with mockOutput := some out, regen := true }
                     input? := some input } args := by
  rw [List.cons_append, List.cons_append,
    Reading.read_input hinput (show Spells "-m" .mockOutput by decide) rfl, List.cons_append,
    Reading.read_option (show Spells "-m" .mockOutput by decide) (by decide) hout rfl,
    List.cons_append, Reading.read_flag (show Spells "-r" .regen by decide) rfl rfl]
  rfl

/-! ## Files that record options -/

/-- A generated file that records the options `options`. -/
inductive IsOutput (options : String) : String → Prop
  | mock (unit : GeneratedUnit) (input : String) (cpp : Bool) (userCode : String) :
      IsOutput options (unit.mockFile input cpp options userCode)
  | header (unit : GeneratedUnit) (input : String) (cpp : Bool) :
      IsOutput options (unit.expectHeader input cpp options)
  | source (unit : GeneratedUnit) (header : String) :
      IsOutput options (unit.expectSource header options)

/-- Every generated file starts with its banner. -/
theorem IsOutput.exists_rest {options text : String} (h : IsOutput options text) :
    ∃ rest, text = Banner.render options ++ rest := by
  cases h <;>
    simp only [GeneratedUnit.mockFile, GeneratedUnit.expectHeader, GeneratedUnit.expectSource,
      String.append_assoc] <;>
    exact ⟨_, rfl⟩

/-- What a file records is read back from it, also after it was stored. -/
theorem IsOutput.options? {o : GenerationOptions} {text : String} (h : IsOutput o.render text)
    (hlines : ∀ s ∈ o.texts, ∀ c ∈ s.toList, isLineEnd c = false) :
    Banner.options? text = (if o.render = "" then none else some o.render) ∧
      Banner.options? (asRead text) = if o.render = "" then none else some o.render := by
  obtain ⟨rest, rfl⟩ := h.exists_rest
  have hline := GenerationOptions.isLineEnd_of_mem_render hlines
  rw [Banner.asRead_render_append hline]
  exact ⟨Banner.options?_render_append hline _, Banner.options?_render_append hline _⟩

/-- The text of the file at a path. -/
def FileTree.Stores (t : FileTree) (path text : String) : Prop :=
  ∃ loc, t.locate path = .ok loc ∧ t.node? loc = some (.file text)

theorem FileTree.Stores.isFile {t : FileTree} {path text : String} (h : t.Stores path text) :
    t.isFile path = true := by
  obtain ⟨loc, hloc, hnode⟩ := h
  simp [FileTree.isFile, hloc, hnode]

theorem FileTree.Stores.readText {t : FileTree} {path text : String} (h : t.Stores path text) :
    HeaderMock.readText t path = .ok (asRead text) := by
  obtain ⟨loc, hloc, hnode⟩ := h
  simp [HeaderMock.readText, FileTree.read, hloc, hnode, asRead]

theorem Path.exists_join (base path : String) : ∃ front, Path.join base path = front ++ path := by
  unfold Path.join
  split
  · exact ⟨"", by simp⟩
  · split <;> exact ⟨_, rfl⟩

/-- A mock file goes to standard output only if this is asked for. -/
theorem mockPath_ne_standardOutput {out : String} (h : out ≠ standardOutput) (t : FileTree)
    (input : String) : mockPath t out input ≠ standardOutput := by
  rw [mockPath, if_neg h]
  split
  · obtain ⟨front, hjoin⟩ := Path.exists_join out (inputStem input ++ "_mock.cpp")
    intro heq
    have hlast := congrArg (·.toList.getLast?) (hjoin.symm.trans heq)
    simp [standardOutput] at hlast
  · exact h

theorem recordedOptions_of_stores {t : FileTree} {path text options : String}
    (hpath : path ≠ standardOutput) (h : t.Stores path text)
    (hoptions : Banner.options? (asRead text) = some options) :
    recordedOptions t [path] = .ok (path, options) := by
  rw [recordedOptions, if_pos ⟨hpath, h.isFile⟩, h.readText]
  simp only [bind, Except.bind, hoptions]
  rfl

/-! ## Commands that ask for regeneration -/

theorem not_joins_of_not_isDashed {arg : String} (h : ¬IsDashed arg) :
    ¬ConfigFile.IsOption arg ∧ ∀ name, ¬ConfigFile.Joins arg name := by
  refine ⟨?_, fun name => ?_⟩
  · rintro (rfl | rfl) <;> exact h (by decide)
  · rintro (rfl | ⟨-, rfl⟩) <;> exact h (by simp [IsDashed, startsWith, dropStart?])

theorem not_joins_of_joinedPath?_eq_none {arg : String} (ho : ¬ConfigFile.IsOption arg)
    (hj : ConfigFile.joinedPath? arg = none) :
    ¬ConfigFile.IsOption arg ∧ ∀ name, ¬ConfigFile.Joins arg name := by
  refine ⟨ho, fun name hname => ?_⟩
  simp [ConfigFile.joinedPath?_eq_some_iff.mpr hname] at hj

theorem expand_regeneration (t : FileTree) {input out : String} (hinput : ¬IsDashed input)
    (hout : ¬IsDashed out) :
    ConfigFile.expand t "" [input, "-m", out, "-r"] = pure [input, "-m", out, "-r"] := by
  refine ConfigFile.expand_of_words fun arg harg => ?_
  simp only [List.mem_cons, List.not_mem_nil, or_false] at harg
  rcases harg with rfl | rfl | rfl | rfl
  · exact not_joins_of_not_isDashed hinput
  · exact not_joins_of_joinedPath?_eq_none (by decide) (by decide)
  · exact not_joins_of_not_isDashed hout
  · exact not_joins_of_joinedPath?_eq_none (by decide) (by decide)

@[simp, grind =] theorem mapM_text? (texts : List String) :
    texts.mapM (OptValue.text? ∘ OptValue.text) = some texts := by
  induction texts with
  | nil => rfl
  | cons text texts ih => simp [List.mapM_cons, OptValue.text?, ih]

/-- The settings of a command that regenerates the mock file `out` with the options `o`. -/
def regenerated (env : Environment) (out : String) (o : GenerationOptions) : Settings :=
  { env.defaults with mockOutput := some out, regen := true }.withOptions o

theorem parse_regeneration {env : Environment} {t : FileTree} {o : GenerationOptions}
    {input out text : String} (hdash : ∀ s ∈ o.texts, ¬IsDashed s)
    (hinput : ¬IsDashed input) (hout : ¬IsDashed out) (hstdout : out ≠ standardOutput)
    (hstores : t.Stores (mockPath t out input) text)
    (hoptions : Banner.options? (asRead text) = some o.render) :
    (Command.parse env t [input, "-m", out, "-r"]).result =
      .ok { regenerated env out o with
        input, overrides := o.overrides
        flags := env.includePath.toList.flatMap fun path => ["-I", path] } := by
  have hfirst : Arguments.parse env.defaults [input, "-m", out, "-r"] =
      .ok { { env.defaults with mockOutput := some out, regen := true } with input } :=
    parse_eq_ok (read_regeneration hinput hout [])
  have hsecond : Arguments.parse env.defaults ([input, "-m", out, "-r"] ++ o.args) =
      .ok { regenerated env out o with input } :=
    parse_eq_ok ((read_regeneration hinput hout o.args).trans (Reading.read_args hdash))
  have hrecorded : (recordedWords
      { { env.defaults with mockOutput := some out, regen := true } with input } t).result =
        .ok o.args := by
    have hpaths : recordedOptions t [mockPath t out input] = .ok (mockPath t out input, o.render) :=
      recordedOptions_of_stores (mockPath_ne_standardOutput hstdout t input) hstores hoptions
    refine Report.result_bind_eq_ok_iff.mpr ⟨_, hpaths, ?_⟩
    simp [Report.result_bind_ok]
  refine Report.result_bind_eq_ok_iff.mpr ⟨_, by rw [expand_regeneration t hinput hout]; rfl, ?_⟩
  refine Report.result_bind_eq_ok_iff.mpr ⟨_, hfirst, ?_⟩
  refine Report.result_bind_eq_ok_iff.mpr ⟨{ regenerated env out o with input }, ?_, ?_⟩
  · exact Report.result_bind_eq_ok_iff.mpr ⟨_, hrecorded, hsecond⟩
  · refine Report.result_bind_eq_ok_iff.mpr ⟨o.overrides, ?_, rfl⟩
    simp [Arguments.overrideTexts, regenerated, Settings.withOptions, Environment.defaults,
      mapM_text?]

/-- Options are recorded the same whether no standard is named or an empty one. -/
theorem GenerationOptions.render_eq_of_standard {o : GenerationOptions} :
    { o with std := o.standard }.render = o.render := by
  have hstandard : { o with std := o.standard }.standard = o.standard := by
    rcases o.standard_cases with ⟨h, -⟩ | ⟨std, hne, h, -⟩ <;> simp_all [standard]
  rw [render, render, words_eq_map_quote, words_eq_map_quote, args, args, hstandard]

/-- Options survive being recorded. Splitting what a file records gives the arguments that set them,
and a command that regenerates the file comes to the same options and records them again. -/
theorem generation_options_round_trip {o : GenerationOptions} {text : String}
    (hlines : ∀ s ∈ o.texts, ∀ c ∈ s.toList, isLineEnd c = false) (h : IsOutput o.render text) :
    (o.render = "" → Banner.options? text = none) ∧
      (o.render ≠ "" → ∃ recorded, Banner.options? text = some recorded ∧
        ShellWords.split recorded = .ok o.args) ∧
      (o.render ≠ "" → (∀ s ∈ o.texts, ¬IsDashed s) →
        ∀ (env : Environment) (t : FileTree) (input out : String),
          ¬IsDashed input → ¬IsDashed out → out ≠ standardOutput →
          t.Stores (mockPath t out input) text →
          ∃ c : Command, (Command.parse env t [input, "-m", out, "-r"]).result = .ok c ∧
            c.cpp = o.cpp ∧ c.underlying = o.underlying ∧ c.overrides = o.overrides ∧
            c.typeOverrides = o.overrides.map .text ∧ c.std = o.standard.map .text ∧
            c.recorded.render = o.render) := by
  obtain ⟨hoptions, hread⟩ := h.options? hlines
  refine ⟨fun hempty => ?_, fun hne => ?_, fun hne hdash env t input out hinput hout hstd hst => ?_⟩
  · rw [hoptions, if_pos hempty]
  · exact ⟨o.render, by rw [hoptions, if_neg hne], o.split_render⟩
  · rw [if_neg hne] at hread
    refine ⟨_, parse_regeneration hdash hinput hout hstd hst hread, ?_⟩
    have hrecorded : (o.standard.map OptValue.text).bind OptValue.text? = o.standard := by
      cases o.standard <;> rfl
    simp [Command.recorded, regenerated, Settings.withOptions, Environment.defaults, hrecorded,
      ← o.render_eq_of_standard]

/-- Options whose texts have to be quoted. -/
def quotedOptions : GenerationOptions where
  cpp := true
  std := some "c++ 11"
  overrides := ["f#p=int~'$'\\\"", "", "#T"]

/-- A directory with a mock file that was generated with these options. -/
def quotedTree : FileTree where
  cwd := ["work"]
  entries :=
    [(["work", "out"], .dir),
      (["work", "out", "h_mock.cpp"],
        .file (({} : GeneratedUnit).mockFile "h.hpp" true quotedOptions.render "int i;\n"))]

theorem generation_options_round_trip_quoted :
    ∃ c : Command, (Command.parse {} quotedTree ["h.hpp", "-m", "out", "-r"]).result = .ok c ∧
      c.cpp = true ∧ c.overrides = quotedOptions.overrides ∧ c.std = some (.text "c++ 11") ∧
      c.recorded.render = quotedOptions.render := by
  have hstores : quotedTree.Stores (mockPath quotedTree "out" "h.hpp")
      (({} : GeneratedUnit).mockFile "h.hpp" true quotedOptions.render "int i;\n") :=
    ⟨["work", "out", "h_mock.cpp"], by decide +kernel, by rfl⟩
  obtain ⟨-, -, h⟩ := generation_options_round_trip (o := quotedOptions)
    (forall_isLineEnd_of_all (by decide)) (.mock {} "h.hpp" true "int i;\n")
  obtain ⟨c, hc, hcpp, -, hoverrides, -, hstd, hrender⟩ := h (by decide +kernel) (by decide) {}
    quotedTree "h.hpp" "out" (by decide) (by decide) (by decide) hstores
  exact ⟨c, hc, hcpp, hoverrides, hstd, hrender⟩

end HeaderMock

import HeaderMock.CommandLine.Arguments
import HeaderMock.Proofs.CommandLine.Scan
import HeaderMock.Proofs.Sequencing
import Mathlib.Data.List.Infix

/-!
# Arguments that name configuration files

The reader of options takes more arguments for the name of a configuration file than the expansion
of configuration files does: long options may be abbreviated, and short ones may stand behind flags
in the same argument.

## Main definitions

* `Bundled`: flags, and the letter of configuration files behind them.
* `Token.NamesFile`: a token that adds a configuration file to the settings.
* `ConfigFile.NamesFile`: an argument that names a configuration file, in one of four forms.

## Main statements

* `Joined.ofShort_names_iff`: joined flags that end in a configuration file.
* `Token.namesFile_of_ofText`, `Token.namesFile_of_token`: such tokens are those of such arguments.
* `Token.forall_not_namesFile_iff`: the same for all arguments up to `--`.
-/

namespace HeaderMock

open Text

/-! ## Options -/

namespace Opt

@[simp, grind =] theorem mem_table_iff {s : String} {o : Opt} :
    (s, o) ∈ table ↔ s ∈ o.spellings := by
  simp [table, mem_all]

@[simp, grind =] theorem ofSpelling?_eq_some_iff {s : String} {o : Opt} :
    ofSpelling? s = some o ↔ s ∈ o.spellings := by
  constructor
  · intro h
    obtain ⟨l₁, l₂, htable, -⟩ := List.lookup_eq_some_iff.mp h
    exact mem_table_iff.mp (by simp [htable])
  · have hall : ∀ o ∈ all, ∀ s ∈ o.spellings, ofSpelling? s = some o := by decide
    exact hall o (mem_all o) s

/-- A spelling is a letter or a name behind dashes, without `=`. -/
theorem spelling_cases {s : String} {o : Opt} (h : s ∈ o.spellings) :
    '=' ∉ s.toList ∧
      ((∃ c, c ≠ '-' ∧ s.toList = ['-', c]) ∨ ∃ name, s.toList = '-' :: '-' :: name) := by
  have hall : ∀ o ∈ all, ∀ s ∈ o.spellings, '=' ∉ s.toList ∧
      (s.toList.take 1 = ['-'] ∧ (s.toList.drop 1).length = 1 ∧ '-' ∉ s.toList.drop 1 ∨
        s.toList.take 2 = ['-', '-']) := by
    decide
  obtain ⟨hmem, ⟨hdash, hlength, hletter⟩ | hdashes⟩ := hall o (mem_all o) s h
  · obtain ⟨c, hc⟩ := List.length_eq_one_iff.mp hlength
    refine ⟨hmem, .inl ⟨c, ?_, ?_⟩⟩
    · rintro rfl
      simp [hc] at hletter
    · rw [← List.take_append_drop 1 s.toList, hdash, hc]
      rfl
  · refine ⟨hmem, .inr ⟨s.toList.drop 2, ?_⟩⟩
    conv => lhs; rw [← List.take_append_drop 2 s.toList, hdashes]
    rfl

theorem ofSpelling?_eq_none_of_mem {s : String} (h : '=' ∈ s.toList) : ofSpelling? s = none := by
  refine Option.eq_none_iff_forall_ne_some.mpr fun o ho => ?_
  exact (spelling_cases (ofSpelling?_eq_some_iff.mp ho)).1 h

theorem eq_of_mem_configFile {s : String} (h : s ∈ configFile.spellings) :
    s = "--config-file" ∨ s = "-f" := by
  simpa [spellings] using h

/-- The letters of the flags. -/
def flagLetters : List Char := ['h', 'x', 'u', 'r', 'v']

theorem mem_flagLetters_iff {c : Char} :
    c ∈ flagLetters ↔ ∃ o, ofSpelling? (String.ofList ['-', c]) = some o ∧ o.arity = .flag := by
  constructor
  · intro h
    simp only [flagLetters, List.mem_cons, List.not_mem_nil, or_false] at h
    rcases h with rfl | rfl | rfl | rfl | rfl
    · exact ⟨.help, by decide, rfl⟩
    · exact ⟨.cpp, by decide, rfl⟩
    · exact ⟨.underlying, by decide, rfl⟩
    · exact ⟨.regen, by decide, rfl⟩
    · exact ⟨.verbose, by decide, rfl⟩
  · rintro ⟨o, ho, hflag⟩
    have hall : ∀ o ∈ all, o.arity = .flag → ∀ s ∈ o.spellings, s.toList.length = 2 →
        s.toList.getLast?.all flagLetters.contains := by decide
    have hletter := hall o (mem_all o) hflag _ (ofSpelling?_eq_some_iff.mp ho) (by simp)
    simpa using hletter

theorem ofSpelling?_f_iff {c : Char} :
    ofSpelling? (String.ofList ['-', c]) = some .configFile ↔ c = 'f' := by
  rw [ofSpelling?_eq_some_iff]
  simp [spellings, ← String.toList_inj]

end Opt

/-! ## Bundles -/

/-- Flags before the letter of configuration files. -/
def Bundled (text : List Char) : Prop :=
  ∃ flags rest, text = flags ++ 'f' :: rest ∧ ∀ c ∈ flags, c ∈ Opt.flagLetters

theorem not_bundled_nil : ¬Bundled [] := by
  rintro ⟨flags, rest, heq, -⟩
  simp at heq

@[simp, grind =] theorem bundled_cons_iff {c : Char} {text : List Char} :
    Bundled (c :: text) ↔ c = 'f' ∨ c ∈ Opt.flagLetters ∧ Bundled text := by
  constructor
  · rintro ⟨flags, rest, heq, hflags⟩
    rcases List.cons_eq_append_iff.mp heq with ⟨rfl, hcons⟩ | ⟨flags', rfl, rfl⟩
    · exact .inl (List.cons.inj hcons).1.symm
    · exact .inr ⟨hflags c (by simp), flags', rest, rfl, fun d hd => hflags d (by simp [hd])⟩
  · rintro (rfl | ⟨hc, flags, rest, rfl, hflags⟩)
    · exact ⟨[], text, rfl, by simp⟩
    · exact ⟨c :: flags, rest, rfl, by simpa using ⟨hc, hflags⟩⟩

theorem Bundled.exists_cons {text : List Char} (h : Bundled text) :
    ∃ c rest, text = c :: rest ∧ c ≠ '=' := by
  cases text with
  | nil => exact absurd h not_bundled_nil
  | cons c rest =>
    refine ⟨c, rest, rfl, ?_⟩
    rintro rfl
    rcases bundled_cons_iff.mp h with heq | ⟨hmem, -⟩
    · simp at heq
    · simp [Opt.flagLetters] at hmem

/-- The letters of a bundle belong to options. -/
theorem bundled_cons_iff_of_some {c : Char} {next : Opt} {text : List Char}
    (h : Opt.ofSpelling? (String.ofList ['-', c]) = some next) :
    Bundled (c :: text) ↔ next = .configFile ∨ next.arity = .flag ∧ Bundled text := by
  rw [bundled_cons_iff, Opt.mem_flagLetters_iff, ← Opt.ofSpelling?_f_iff, h]
  simp

theorem not_bundled_of_none {c : Char} {text : List Char}
    (h : Opt.ofSpelling? (String.ofList ['-', c]) = none) : ¬Bundled (c :: text) := by
  rw [bundled_cons_iff, Opt.mem_flagLetters_iff, ← Opt.ofSpelling?_f_iff, h]
  simp

namespace Joined

/-- Joined flags end in a configuration file where their letters say so. The induction follows the
letters. -/
theorem ofShort_names_iff (opt : Opt) (text : List Char) :
    (∃ joined, ofShort opt text = .ok joined ∧ joined.last = .configFile) ↔
      opt = .configFile ∨ opt.arity = .flag ∧ Bundled text := by
  have hne {opt : Opt} (hflag : opt.arity = .flag) : opt ≠ .configFile := by
    rintro rfl
    cases hflag
  fun_induction ofShort opt text with
  | case1 opt hflag => simp [hne hflag, not_bundled_nil]
  | case2 opt c rest hflag hnone => simp [hne hflag, not_bundled_of_none hnone]
  | case3 opt c hflag next hnext =>
    simp [hne hflag, hflag, bundled_cons_iff_of_some hnext, not_bundled_nil]
  | case4 opt c hflag next d rest hnext ih =>
    simpa [hne hflag, hflag, bundled_cons_iff_of_some hnext] using ih
  | case5 opt text hnil hcons =>
    have hvalue : opt.arity ≠ .flag := by
      intro hflag
      cases text with
      | nil => exact hnil hflag rfl
      | cons c rest => exact hcons c rest hflag rfl
    simp [hvalue]

/-- All options but the last are flags. -/
theorem ofShort_flags {opt : Opt} {text : List Char} {joined : Joined}
    (h : ofShort opt text = .ok joined) : ∀ flag ∈ joined.flags, flag.arity = .flag := by
  fun_induction ofShort opt text generalizing joined with
  | case1 | case2 => cases h
  | case3 opt c hflag next hnext =>
    cases h
    simpa using hflag
  | case4 opt c hflag next d rest hnext ih =>
    obtain ⟨joined', hjoined', rfl⟩ := map_eq_ok_iff.mp h
    simpa using ⟨hflag, ih hjoined'⟩
  | case5 =>
    cases h
    simp

theorem ofOption_flags {opt : Opt} {spelling : String} {value? : Option String} {joined : Joined}
    (h : ofOption opt spelling value? = .ok joined) :
    ∀ flag ∈ joined.flags, flag.arity = .flag := by
  unfold ofOption at h
  split at h
  · cases h
    simp
  · split at h
    · cases h
    · exact ofShort_flags h

end Joined

namespace Token

/-- The token adds a configuration file to the settings. -/
def NamesFile : Token → Prop
  | .option opt spelling value? =>
    ∃ joined, Joined.ofOption opt spelling value? = .ok joined ∧ joined.last = .configFile
  | _ => False

theorem namesFile_option_iff {opt : Opt} {spelling : String} {value? : Option String} :
    (option opt spelling value?).NamesFile ↔ opt = .configFile ∨
      opt.arity = .flag ∧ startsWith spelling "--" = false ∧
        ∃ value, value? = some value ∧ Bundled value.toList := by
  cases value? with
  | none => simp [NamesFile, Joined.ofOption]
  | some value =>
    have hshort := Joined.ofShort_names_iff opt value.toList
    simp only [NamesFile, Joined.ofOption]
    split
    · next hlong =>
      have hne : opt ≠ .configFile := by
        rintro rfl
        cases hlong.1
      simp [hne, hlong]
    · next hlong =>
      rw [hshort]
      cases hflag : startsWith spelling "--" <;> simp_all

theorem namesFile_configFile {spelling : String} {value? : Option String} :
    (option .configFile spelling value?).NamesFile :=
  namesFile_option_iff.mpr (.inl rfl)

theorem namesFile_of_bundled {flag : Char} {opt : Opt} {value : String}
    (hflag : flag ∈ Opt.flagLetters) (harity : opt.arity = .flag) (h : Bundled value.toList) :
    (option opt (String.ofList ['-', flag]) (some value)).NamesFile := by
  have hne : '-' ≠ flag := by
    rintro rfl
    simp [Opt.flagLetters] at hflag
  have hshort : startsWith (String.ofList ['-', flag]) "--" = false := by
    simp [startsWith, dropStart?, hne]
  exact namesFile_option_iff.mpr (.inr ⟨harity, hshort, value, rfl, h⟩)

end Token

/-! ## Arguments -/

namespace ConfigFile

/-- The starts of `--config-file` that no other option has. -/
def shortenings : List String :=
  ["--co", "--con", "--conf", "--confi", "--config", "--config-", "--config-f", "--config-fi",
   "--config-fil"]

/-- A shortened option, with or without a name. -/
def Abbreviates (arg : String) : Prop :=
  ∃ start ∈ shortenings, ∃ name?, arg = start ++ signed '=' name?

/-- The option behind at least one flag in the same argument; `=` may follow the first flag. -/
def Bundles (arg : String) : Prop :=
  ∃ flag ∈ Opt.flagLetters, ∃ text, Bundled text ∧
    (arg.toList = '-' :: flag :: text ∨ arg.toList = '-' :: flag :: '=' :: text)

/-- The argument is read as an option that names a configuration file. -/
inductive NamesFile (arg : String) : Prop
  | separate : IsOption arg → NamesFile arg
  | joined {name : String} : Joins arg name → NamesFile arg
  | abbreviated : Abbreviates arg → NamesFile arg
  | bundled : Bundles arg → NamesFile arg

end ConfigFile

namespace Token

open ConfigFile

@[simp, grind =] theorem startsWith_dash {s : List Char} :
    startsWith (String.ofList ('-' :: s)) "-" = true := by
  simp [startsWith, dropStart?]

theorem ofText_of_candidates {arg : String} {token : Token} (hdash : startsWith arg "-" = true)
    (hne : arg ≠ "-") (hnone : Opt.ofSpelling? arg = none) (hassignment : ofAssignment? arg = none)
    (h : candidates arg = [token]) : ofText arg = .ok token := by
  simp [ofText, hdash, hnone, hne, hassignment, ofInexact, h]

/-- An argument that is an option up to `=` is the option with a value. -/
theorem ofText_assignment {spelling : String} {opt : Opt} (h : spelling ∈ opt.spellings)
    (value : String) :
    ofText (spelling ++ "=" ++ value) = .ok (.option opt spelling (some value)) := by
  obtain ⟨hmem, hcases⟩ := Opt.spelling_cases h
  have hdash : startsWith (spelling ++ "=" ++ value) "-" = true := by
    rcases hcases with ⟨c, -, hs⟩ | ⟨name, hs⟩ <;> simp [startsWith, dropStart?, hs]
  have hnone : Opt.ofSpelling? (spelling ++ "=" ++ value) = none :=
    Opt.ofSpelling?_eq_none_of_mem (by simp)
  have hne : spelling ++ "=" ++ value ≠ "-" := by
    intro heq
    have hmem' : '=' ∈ "-".toList := by simp [← heq]
    simp at hmem'
  have hcut : cutAt '=' (spelling ++ "=" ++ value) = (spelling, some value) :=
    cutAt_eq_iff.mpr ⟨String.append_assoc .., hmem⟩
  simp [ofText, hdash, hnone, hne, ofAssignment?, hcut, Opt.ofSpelling?_eq_some_iff.mpr h]

/-- A letter that is directly followed by more text is an option with a value. -/
theorem ofText_letter {c d : Char} {opt : Opt} (h : String.ofList ['-', c] ∈ opt.spellings)
    (hd : d ≠ '=') (text : List Char) :
    ofText (String.ofList ('-' :: c :: d :: text)) =
      .ok (.option opt (String.ofList ['-', c]) (some (String.ofList (d :: text)))) := by
  have hc : c ≠ '-' := by
    rintro rfl
    have hnone : Opt.ofSpelling? (String.ofList ['-', '-']) = none := by decide
    rw [Opt.ofSpelling?_eq_some_iff.mpr h] at hnone
    cases hnone
  have hnone : Opt.ofSpelling? (String.ofList ('-' :: c :: d :: text)) = none := by
    refine Option.eq_none_iff_forall_ne_some.mpr fun o ho => ?_
    rcases (Opt.spelling_cases (Opt.ofSpelling?_eq_some_iff.mp ho)).2 with ⟨_, -, hs⟩ | ⟨_, hs⟩
    · simp at hs
    · simp [hc] at hs
  have hassignment : ofAssignment? (String.ofList ('-' :: c :: d :: text)) = none := by
    unfold ofAssignment?
    split
    · next spelling value hcut =>
      obtain ⟨heq, -⟩ := cutAt_eq_iff.mp hcut
      refine Option.map_eq_none_iff.mpr (Option.eq_none_iff_forall_ne_some.mpr fun o ho => ?_)
      have hlist := congrArg String.toList heq
      rcases (Opt.spelling_cases (Opt.ofSpelling?_eq_some_iff.mp ho)).2 with ⟨_, -, hs⟩ | ⟨_, hs⟩
      · simp [signed, hs, hd] at hlist
      · simp [signed, hs, hc] at hlist
    · rfl
  have hcandidates : candidates (String.ofList ('-' :: c :: d :: text)) =
      [.option opt (String.ofList ['-', c]) (some (String.ofList (d :: text)))] := by
    simp only [candidates, String.toList_ofList]
    split
    · next heq =>
      cases heq
      exact absurd rfl hc
    · next heq =>
      cases heq
      rw [Opt.ofSpelling?_eq_some_iff.mpr h]
      rfl
    · next hshort => exact absurd rfl (hshort '-' c (d :: text))
  have hne : String.ofList ('-' :: c :: d :: text) ≠ "-" := by
    simp [← String.toList_inj]
  exact ofText_of_candidates startsWith_dash hne hnone hassignment hcandidates

/-- A shortened option is the option, if no other one starts with it. -/
theorem ofText_shortening {start : String} (h : start ∈ shortenings) (value? : Option String) :
    ofText (start ++ signed '=' value?) = .ok (.option .configFile "--config-file" value?) := by
  have hall : ∀ start ∈ shortenings, '=' ∉ start.toList ∧ start.toList.take 2 = ['-', '-'] ∧
      Opt.ofSpelling? start = none ∧ abbreviated start = [("--config-file", .configFile)] := by
    decide +kernel
  obtain ⟨hmem, hdashes, hnone, habbreviated⟩ := hall start h
  have hcut : cutAt '=' (start ++ signed '=' value?) = (start, value?) :=
    cutAt_eq_iff.mpr ⟨rfl, hmem⟩
  have hlist : (start ++ signed '=' value?).toList =
      '-' :: '-' :: (start.toList.drop 2 ++ (signed '=' value?).toList) := by
    rw [String.toList_append, ← List.take_append_drop 2 start.toList, hdashes]
    simp
  have hnone' : Opt.ofSpelling? (start ++ signed '=' value?) = none := by
    cases value? with
    | none => simpa [signed] using hnone
    | some value => exact Opt.ofSpelling?_eq_none_of_mem (by simp [signed])
  have hassignment : ofAssignment? (start ++ signed '=' value?) = none := by
    simp only [ofAssignment?, hcut]
    cases value? <;> simp [hnone]
  have hcandidates : candidates (start ++ signed '=' value?) =
      [.option .configFile "--config-file" value?] := by
    simp [candidates, hlist, hcut, habbreviated]
  have hdash : startsWith (start ++ signed '=' value?) "-" = true := by
    simp [startsWith, hlist, dropStart?]
  have hne : start ++ signed '=' value? ≠ "-" := by
    simp [← String.toList_inj, hlist]
  exact ofText_of_candidates hdash hne hnone' hassignment hcandidates

/-! ## Tokens and their arguments -/

/-- The token of an argument that names a file adds the file to the settings. -/
theorem namesFile_of_ofText {arg : String} {token : Token} (h : ofText arg = .ok token)
    (harg : ConfigFile.NamesFile arg) : token.NamesFile := by
  cases harg with
  | separate hoption =>
    have hall : ∀ arg ∈ Opt.configFile.spellings,
        ofText arg = .ok (.option .configFile arg none) := by decide
    rw [hall arg (by rcases hoption with rfl | rfl <;> decide)] at h
    cases h
    exact namesFile_configFile
  | @joined name hjoins =>
    rcases hjoins with rfl | ⟨hname, rfl⟩
    · have hmem : "--config-file" ∈ Opt.configFile.spellings := by decide
      have htoken := ofText_assignment hmem name
      cases h.symm.trans htoken
      exact namesFile_configFile
    · obtain ⟨d, text, hlist⟩ := List.exists_cons_of_ne_nil (mt String.toList_eq_nil_iff.mp hname)
      obtain rfl : name = String.ofList (d :: text) := by rw [← hlist, String.ofList_toList]
      have hmem : String.ofList ['-', 'f'] ∈ Opt.configFile.spellings := by decide
      by_cases hd : d = '='
      · have htoken := ofText_assignment hmem (String.ofList text)
        have heq : "-f" ++ String.ofList (d :: text) =
            String.ofList ['-', 'f'] ++ "=" ++ String.ofList text := by
          simp [← String.toList_inj, hd]
        cases (heq ▸ h).symm.trans htoken
        exact namesFile_configFile
      · have htoken := ofText_letter hmem hd text
        have heq : "-f" ++ String.ofList (d :: text) = String.ofList ('-' :: 'f' :: d :: text) := by
          simp [← String.toList_inj]
        cases (heq ▸ h).symm.trans htoken
        exact namesFile_configFile
  | abbreviated habbreviates =>
    obtain ⟨start, hstart, value?, rfl⟩ := habbreviates
    cases h.symm.trans (ofText_shortening hstart value?)
    exact namesFile_configFile
  | bundled hbundles =>
    obtain ⟨flag, hflag, text, htext, hlist⟩ := hbundles
    obtain ⟨opt, hopt, harity⟩ := Opt.mem_flagLetters_iff.mp hflag
    have hmem := Opt.ofSpelling?_eq_some_iff.mp hopt
    rcases hlist with hlist | hlist
    · obtain ⟨d, rest, rfl, hd⟩ := htext.exists_cons
      have htoken := ofText_letter hmem hd rest
      rw [← hlist, String.ofList_toList] at htoken
      cases h.symm.trans htoken
      exact namesFile_of_bundled hflag harity (by simpa using htext)
    · have htoken := ofText_assignment hmem (String.ofList text)
      have heq : arg = String.ofList ['-', flag] ++ "=" ++ String.ofList text := by
        simp [← String.toList_inj, hlist]
      cases (heq ▸ h).symm.trans htoken
      exact namesFile_of_bundled hflag harity (by simpa using htext)

theorem joins_assignment (value : String) :
    Joins ("--config-file" ++ signed '=' (some value)) value :=
  .inl (by simp [signed, ← String.toList_inj])

theorem namesFile_of_ofAssignment? {arg : String} {token : Token}
    (h : ofAssignment? arg = some token) (htoken : token.NamesFile) :
    ConfigFile.NamesFile arg := by
  unfold ofAssignment? at h
  split at h
  · next spelling value hcut =>
    obtain ⟨rfl, -⟩ := cutAt_eq_iff.mp hcut
    obtain ⟨opt, hopt, rfl⟩ := Option.map_eq_some_iff.mp h
    rcases namesFile_option_iff.mp htoken with rfl | ⟨harity, hshort, _, hvalue, hbundled⟩
    · rcases Opt.eq_of_mem_configFile (Opt.ofSpelling?_eq_some_iff.mp hopt) with rfl | rfl
      · exact .joined (joins_assignment value)
      · exact .joined (.inr ⟨by simp [signed], rfl⟩)
    · cases hvalue
      rcases (Opt.spelling_cases (Opt.ofSpelling?_eq_some_iff.mp hopt)).2 with ⟨c, -, hs⟩ | ⟨_, hs⟩
      · obtain rfl : spelling = String.ofList ['-', c] := by rw [← hs, String.ofList_toList]
        have hflag := Opt.mem_flagLetters_iff.mpr ⟨opt, hopt, harity⟩
        exact .bundled ⟨c, hflag, value.toList, hbundled, .inr (by simp [signed])⟩
      · simp [startsWith, hs, dropStart?] at hshort
  · cases h

/-- The one option that an argument shortens. -/
theorem abbreviated_eq_singleton {spelling full : String} {opt : Opt}
    (h : abbreviated spelling = [(full, opt)]) :
    full ∈ opt.spellings ∧ ∃ rest, full = spelling ++ rest := by
  have hmem : (full, opt) ∈ abbreviated spelling := by simp [h]
  obtain ⟨htable, hstart⟩ := List.mem_filter.mp hmem
  obtain ⟨rest, hrest⟩ := Option.isSome_iff_exists.mp hstart
  exact ⟨Opt.mem_table_iff.mp htable, String.ofList rest, dropStart?_toList_eq_some_iff.mp hrest⟩

/-- An argument with two dashes shortens options with two dashes only. -/
theorem exists_of_dashes {spelling rest : String} {value? : Option String} {text : List Char}
    (h : (spelling ++ signed '=' value?).toList = '-' :: '-' :: text) :
    ∃ name, (spelling ++ rest).toList = '-' :: '-' :: name := by
  rw [String.toList_append] at h ⊢
  generalize spelling.toList = chars at h ⊢
  match chars, h with
  | [], h | [_], h => cases value? <;> simp [signed] at h
  | a :: b :: name, h =>
    simp only [List.cons_append, List.cons.injEq] at h
    exact ⟨name ++ rest.toList, by simp [h.1, h.2.1]⟩

theorem mem_shortenings {spelling : String} {rest : String}
    (h : (abbreviated spelling).length = 1) (hrest : "--config-file" = spelling ++ rest) :
    spelling ∈ shortenings ∨ spelling = "--config-file" := by
  have hall : ∀ start ∈ "--config-file".toList.inits,
      (abbreviated (String.ofList start)).length = 1 →
        String.ofList start ∈ shortenings ∨ String.ofList start = "--config-file" := by
    decide +kernel
  have hinits : spelling.toList ∈ "--config-file".toList.inits := by
    rw [List.mem_inits, hrest, String.toList_append]
    exact List.prefix_append ..
  simpa using hall spelling.toList hinits (by simpa using h)

/-- An argument with two dashes that is the start of one option. -/
theorem namesFile_of_abbreviated {spelling full : String} {value? : Option String} {opt : Opt}
    {text : List Char} (hlist : (spelling ++ signed '=' value?).toList = '-' :: '-' :: text)
    (h : abbreviated spelling = [(full, opt)]) (htoken : (option opt full value?).NamesFile) :
    ConfigFile.NamesFile (spelling ++ signed '=' value?) := by
  obtain ⟨hmem, rest, hrest⟩ := abbreviated_eq_singleton h
  obtain ⟨name, hname⟩ : ∃ name, full.toList = '-' :: '-' :: name :=
    hrest ▸ exists_of_dashes hlist
  rcases namesFile_option_iff.mp htoken with rfl | ⟨-, hshort, -⟩
  · obtain rfl : full = "--config-file" := by
      rcases Opt.eq_of_mem_configFile hmem with rfl | rfl
      · rfl
      · simp at hname
    rcases mem_shortenings (by simp [h]) hrest with hstart | rfl
    · exact .abbreviated ⟨spelling, hstart, value?, rfl⟩
    · cases value? with
      | none => exact .separate (.inr (by simp [signed]))
      | some value => exact .joined (joins_assignment value)
  · simp [startsWith, hname, dropStart?] at hshort

theorem namesFile_of_candidates {arg : String} {token : Token} (hdash : startsWith arg "-" = true)
    (h : candidates arg = [token]) (htoken : token.NamesFile) : ConfigFile.NamesFile arg := by
  unfold candidates at h
  split at h
  · next text hlist =>
    generalize hcut : cutAt '=' arg = cut at h
    obtain ⟨spelling, value?⟩ := cut
    obtain ⟨rfl, -⟩ := cutAt_eq_iff.mp hcut
    obtain ⟨⟨full, opt⟩, habbreviated, rfl⟩ := List.map_eq_singleton_iff.mp h
    exact namesFile_of_abbreviated hlist habbreviated htoken
  · next a b text hdashes hlist =>
    obtain rfl : '-' = a := by
      simpa [startsWith, hlist, dropStart?] using hdash
    obtain ⟨opt, hopt, rfl⟩ := List.map_eq_singleton_iff.mp h
    have hopt' : Opt.ofSpelling? (String.ofList ['-', b]) = some opt := by
      simpa using hopt
    rcases namesFile_option_iff.mp htoken with rfl | ⟨harity, -, _, hvalue, hbundled⟩
    · obtain rfl := Opt.ofSpelling?_f_iff.mp hopt'
      have harg : arg = "-f" ++ String.ofList text := by simp [← String.toList_inj, hlist]
      by_cases hempty : String.ofList text = ""
      · exact .separate (.inl (by simpa [hempty] using harg))
      · exact .joined (.inr ⟨hempty, harg⟩)
    · cases hvalue
      have hflag := Opt.mem_flagLetters_iff.mpr ⟨opt, hopt', harity⟩
      exact .bundled ⟨b, hflag, text, by simpa using hbundled, .inl hlist⟩
  · cases h

/-- An argument whose token adds a file to the settings names this file. -/
theorem namesFile_of_token {arg : String} {token : Token} (h : ofText arg = .ok token)
    (htoken : token.NamesFile) : ConfigFile.NamesFile arg := by
  unfold ofText at h
  split at h
  · cases h
    cases htoken
  next hdash =>
  split at h
  · next opt hopt =>
    cases h
    rcases namesFile_option_iff.mp htoken with rfl | ⟨-, -, value, hvalue, -⟩
    · exact .separate (Opt.eq_of_mem_configFile (Opt.ofSpelling?_eq_some_iff.mp hopt)).symm
    · cases hvalue
  next hnone =>
  split at h
  · cases h
    cases htoken
  split at h
  · next token' hassignment =>
    cases h
    exact namesFile_of_ofAssignment? hassignment htoken
  · unfold ofInexact at h
    split at h
    · next token' hcandidates =>
      cases h
      exact namesFile_of_candidates (by simpa using hdash) hcandidates htoken
    · split at h <;> cases h <;> cases htoken
    · cases h

/-- Up to `--`, the tokens that add files to the settings are those of the arguments that name
files. -/
theorem forall_not_namesFile_iff {args : List String} {tokens : List Token}
    (h : ofArgs args = .ok tokens) :
    (∀ token ∈ tokens, ¬token.NamesFile) ↔
      ∀ arg ∈ args.takeWhile (· ≠ "--"), ¬ConfigFile.NamesFile arg := by
  induction args generalizing tokens with
  | nil =>
    cases h
    simp
  | cons arg args ih =>
    unfold ofArgs at h
    split at h
    · next hseparator =>
      cases h
      simp [hseparator, NamesFile]
    · next hne =>
      obtain ⟨token, htoken, h⟩ := bind_eq_ok_iff.mp h
      obtain ⟨rest, hrest, h⟩ := bind_eq_ok_iff.mp h
      cases h
      have harg : token.NamesFile ↔ ConfigFile.NamesFile arg :=
        ⟨namesFile_of_token htoken, namesFile_of_ofText htoken⟩
      simp [hne, harg, ih hrest]

end Token

end HeaderMock

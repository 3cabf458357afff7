import HeaderMock.Proofs.CommandLine.Regeneration
import HeaderMock.Proofs.Override.Key
import HeaderMock.Proofs.Signature.Collected

/-!
# Overriding a single slot

Which slots a single option on the command line can override. An option goes to one of two tables by
its first sign and is cut into key and override at its first `=`; so it finds its slot exactly when
the name of the function can lead a key and no name holds `=`. Comparison and assignment operators
have such names, and their slots cannot be overridden one by one.

## Main definitions

* `LeadsKey`: the name of a function can stand at the start of a key.

## Main statements

* `Command.parse_single`: a command line with one option.
* `Command.resolves_iff`: when the option of such a command is found.
* `Override.parse_slot_iff`: when it reaches the table of functions and is read with its key.
* `slots_overridable_iff`: the slots that can be overridden.
* `comparison_not_overridable`: a slot that cannot.
-/

namespace HeaderMock

open Text

/-- The name of a function can stand at the start of a key. -/
structure LeadsKey (function : String) : Prop where
  ne_empty : function ≠ ""
  not_isTypeKey : Override.isTypeKey function = false
  notMem : '=' ∉ function.toList

/-! ## The command line -/

namespace Command

theorem expand_single (t : FileTree) {input out option : String} (hinput : ¬IsDashed input)
    (hout : ¬IsDashed out) (hoption : ¬IsDashed option) :
    ConfigFile.expand t "" [input, "-m", out, "-t", option] =
      pure [input, "-m", out, "-t", option] := by
  refine ConfigFile.expand_of_words fun arg harg => ?_
  simp only [List.mem_cons, List.not_mem_nil, or_false] at harg
  rcases harg with rfl | rfl | rfl | rfl | rfl
  · exact not_joins_of_not_isDashed hinput
  · exact not_joins_of_joinedPath?_eq_none (by decide) (by decide)
  · exact not_joins_of_not_isDashed hout
  · exact not_joins_of_joinedPath?_eq_none (by decide) (by decide)
  · exact not_joins_of_not_isDashed hoption

/-- The settings of a command that writes the mock file `out` with one override. -/
def withOverride (env : Environment) (out option : String) : Settings :=
  { env.defaults with mockOutput := some out, typeOverrides := [.text option] }

/-- A command line with one option gives a command with this option. -/
theorem parse_single (env : Environment) (t : FileTree) {input out option : String}
    (hinput : ¬IsDashed input) (hout : ¬IsDashed out) (hoption : ¬IsDashed option) :
    (Command.parse env t [input, "-m", out, "-t", option]).result =
      .ok { withOverride env out option with
        input, overrides := [option]
        flags := env.includePath.toList.flatMap fun path => ["-I", path] } := by
  have hread : Reading.read { settings := env.defaults } [input, "-m", out, "-t", option] =
      .ok { settings := withOverride env out option, input? := some input } := by
    rw [Reading.read_input hinput (show Spells "-m" .mockOutput by decide) rfl,
      Reading.read_option (show Spells "-m" .mockOutput by decide) (by decide) hout rfl,
      Reading.read_option (show Spells "-t" .typeOverride by decide) (by decide) hoption rfl]
    rfl
  refine Report.result_bind_eq_ok_iff.mpr
    ⟨_, by rw [expand_single t hinput hout hoption]; rfl, ?_⟩
  refine Report.result_bind_eq_ok_iff.mpr ⟨_, parse_eq_ok hread, ?_⟩
  rfl

end Command

/-! ## Names at the start of an option -/

theorem Override.isTypeKey_append {a b : String} (ha : a ≠ "") :
    isTypeKey (a ++ b) = isTypeKey a := by
  simp only [isTypeKey, Text.startsWith_append "@" (by decide) ha,
    Text.startsWith_append "#" (by decide) ha]

theorem not_isDashed_append {a b : String} (ha : ¬IsDashed a) (hb : ¬IsDashed b) :
    ¬IsDashed (a ++ b) := by
  by_cases h : a = ""
  · simpa [h] using hb
  · simpa only [IsDashed, Text.startsWith_append "-" (by decide) h] using ha

theorem LeadsKey.startsWith_append {function : String} (h : LeadsKey function) (slot : String) :
    startsWith (function ++ slot) "@" = false := by
  have htype := h.not_isTypeKey
  rw [Override.isTypeKey, Bool.or_eq_false_iff] at htype
  rw [Text.startsWith_append "@" (by decide) h.ne_empty, htype.1]

/-! ## Options that are found -/

private theorem lookup_singleton_eq_some_iff {e : String × Override} {key : String} {o : Override} :
    ([e] : OverrideTable).lookup key = some o ↔ e = (key, o) := by
  rw [List.lookup_cons, List.lookup_nil]
  cases h : key == e.1 with
  | true => simp [Prod.ext_iff, (beq_iff_eq.mp h).symm]
  | false => simp [Prod.ext_iff, Ne.symm (beq_eq_false_iff_ne.mp h)]

/-- One entry is not found under all types. -/
private theorem not_forall_lookup {e : String × Override} {sign : String} {o : Override} :
    ¬∀ spelling, ([e] : OverrideTable).lookup (sign ++ spelling) = some o := by
  intro h
  have ha := lookup_singleton_eq_some_iff.mp (h "a")
  have hb := lookup_singleton_eq_some_iff.mp (h "b")
  simp [ha] at hb

/-- The only option of a command is found under `key`, whatever the type, exactly when it reaches
the table of functions and is read as an override with this key. -/
theorem Command.resolves_iff {c : Command} {option key sign : String} {o : Override}
    (hc : c.overrides = [option]) :
    (∃ cfg, Config.build c.underlying c.byParameter c.byType = .ok cfg ∧
      ∀ spelling, (cfg.parameterOverride key).or (cfg.typeOverride (sign ++ spelling)) = some o) ↔
    Override.isTypeKey option = false ∧ Override.parse option = .ok (key, o) := by
  cases hroute : Override.isTypeKey option with
  | true =>
    -- The option is the only entry of the table of types, which answers for one type at most.
    have hbyParameter : c.byParameter = [] := by simp [byParameter, hc, hroute]
    have hbyType : c.byType = [option] := by simp [byType, hc, hroute]
    rw [hbyParameter, hbyType]
    simp only [Bool.true_eq_false, false_and, iff_false]
    rintro ⟨cfg, hcfg, h⟩
    obtain ⟨hp, ht, -, -⟩ := Config.build_eq_ok_iff.mp hcfg
    obtain ⟨e, -, he⟩ := OverrideTable.build_singleton_iff.mp ht
    have hempty : cfg.parameters = [] := (Except.ok.inj hp).symm
    simp only [Config.parameterOverride, Config.typeOverride, hempty, he, List.lookup_nil,
      Option.none_or] at h
    exact not_forall_lookup h
  | false =>
    -- The table of types is empty, so that only the option itself can be found.
    have hbyParameter : c.byParameter = [option] := by simp [byParameter, hc, hroute]
    have hbyType : c.byType = [] := by simp [byType, hc, hroute]
    rw [hbyParameter, hbyType]
    constructor
    · rintro ⟨cfg, hcfg, h⟩
      obtain ⟨hp, ht, -, -⟩ := Config.build_eq_ok_iff.mp hcfg
      obtain ⟨e, hparse, he⟩ := OverrideTable.build_singleton_iff.mp hp
      have hempty : cfg.types = [] := (Except.ok.inj ht).symm
      have hfound := h ""
      simp only [Config.parameterOverride, Config.typeOverride, hempty, he, List.lookup_nil,
        Option.or_none, lookup_singleton_eq_some_iff] at hfound
      exact ⟨rfl, hfound ▸ hparse⟩
    · rintro ⟨-, hparse⟩
      refine ⟨{ underlying := c.underlying, parameters := [(key, o)], types := [] }, ?_, ?_⟩
      · exact Config.build_eq_ok_iff.mpr
          ⟨OverrideTable.build_singleton_iff.mpr ⟨_, hparse, rfl⟩, rfl, by simp, rfl⟩
      · intro spelling
        simp [Config.parameterOverride, Config.typeOverride]

/-! ## Slots -/

/-- An option that starts with the name of a function and a sign reaches the table of functions and
is read with this key exactly when the name can lead a key and the rest of the key suits. -/
theorem Override.parse_slot_iff {function slot k text : String} {o : Override}
    (htext : parse (k ++ "=" ++ text) = .ok (k, o)) (hslot : isTypeKey slot = true) :
    (isTypeKey (function ++ slot ++ "=" ++ text) = false ∧
        parse (function ++ slot ++ "=" ++ text) = .ok (function ++ slot, o)) ↔
      LeadsKey function ∧ '=' ∉ slot.toList ∧
        (endsWithChar slot '@' = true → o.kind.slot.isValue = true) := by
  have hne : slot ≠ "" := by
    rintro rfl
    exact absurd hslot (by decide)
  have hlast : endsWithChar (function ++ slot) '@' = endsWithChar slot '@' := by
    obtain ⟨c, hc⟩ : ∃ c, slot.toList.getLast? = some c :=
      ⟨_, List.getLast?_eq_some_getLast (by simpa using hne)⟩
    simp [endsWithChar, hc]
  rw [parse_append_iff htext]
  simp only [String.append_assoc]
  constructor
  · rintro ⟨htype, hsep, -, hvalue⟩
    have hfunction : function ≠ "" := by
      rintro rfl
      rw [String.empty_append, isTypeKey_append hne, hslot] at htype
      cases htype
    rw [isTypeKey_append hfunction] at htype
    simp only [String.toList_append, List.mem_append, not_or] at hsep
    refine ⟨⟨hfunction, htype, hsep.1⟩, hsep.2, fun hend => hvalue ?_⟩
    rw [isResultKey, hlast, hend, Bool.or_true]
  · rintro ⟨hleads, hsep, hvalue⟩
    refine ⟨by rw [isTypeKey_append hleads.ne_empty, hleads.not_isTypeKey], ?_, ?_, ?_⟩
    · simpa using ⟨hleads.notMem, hsep⟩
    · simp [hne]
    · rw [isResultKey, hleads.startsWith_append, hlast, Bool.false_or]
      exact hvalue

/-- The sign before the name of a parameter is no sign of results. -/
private theorem endsWithChar_parameter (name : String) :
    endsWithChar ("#" ++ name) '@' = endsWithChar name '@' := by
  cases h : name.toList.getLast? <;> simp [endsWithChar, List.getLast?_cons, h]

/-- A single option finds the parameter that it names exactly when the name of the function can lead
a key, the name of the parameter holds no `=`, and one that ends in the sign of results is given a
value. A single option for a result, which is given a value, finds it exactly when the name of the
function can lead a key. Options whose names do not look like options of the command line reach a
command from it as they are. -/
theorem slots_overridable_iff (s : Site) (arg : Argument) (index : Nat) {k text : String}
    {o : Override} (htext : Override.parse (k ++ "=" ++ text) = .ok (k, o)) :
    (∀ c : Command, c.overrides = [s.qualifiedName ++ "#" ++ arg.name index ++ "=" ++ text] →
      ((∃ cfg, Config.build c.underlying c.byParameter c.byType = .ok cfg ∧
          ∀ spelling, cfg.resolveParameter s.qualifiedName (arg.name index) spelling = some o) ↔
        LeadsKey s.qualifiedName ∧ '=' ∉ (arg.name index).toList ∧
          (endsWithChar (arg.name index) '@' = true → o.kind.slot.isValue = true))) ∧
    (∀ c : Command, c.overrides = [s.qualifiedName ++ "@" ++ "=" ++ text] →
      o.kind.slot.isValue = true →
      ((∃ cfg, Config.build c.underlying c.byParameter c.byType = .ok cfg ∧
          ∀ spelling, cfg.resolveResult s.qualifiedName spelling = some o) ↔
        LeadsKey s.qualifiedName)) ∧
    (∀ (env : Environment) (t : FileTree) (input out : String), ¬IsDashed input → ¬IsDashed out →
      ¬IsDashed s.qualifiedName →
      ∀ slot ∈ ["#" ++ arg.name index, "@"], ∃ c,
        (Command.parse env t
          [input, "-m", out, "-t", s.qualifiedName ++ slot ++ "=" ++ text]).result = .ok c ∧
        c.overrides = [s.qualifiedName ++ slot ++ "=" ++ text]) := by
  refine ⟨fun c hc => ?_, fun c hc hvalue => ?_,
    fun env t input out hinput hout hs slot hslot => ?_⟩
  · have hparameter : s.qualifiedName ++ "#" ++ arg.name index =
        s.qualifiedName ++ ("#" ++ arg.name index) := String.append_assoc ..
    have hslot : Override.isTypeKey ("#" ++ arg.name index) = true := by
      rw [Override.isTypeKey_append (by decide)]
      decide
    have hsep : '=' ∉ ("#" ++ arg.name index).toList ↔ '=' ∉ (arg.name index).toList := by simp
    simp only [Config.resolveParameter, hparameter] at hc ⊢
    rw [Command.resolves_iff hc, Override.parse_slot_iff htext hslot, hsep, endsWithChar_parameter]
  · simp only [Config.resolveResult]
    rw [Command.resolves_iff hc, Override.parse_slot_iff htext (by decide)]
    simp [hvalue]
  · refine ⟨_, Command.parse_single env t hinput hout ?_, rfl⟩
    simp only [String.append_assoc]
    have hslot : ¬IsDashed slot := by
      rcases List.mem_pair.mp hslot with rfl | rfl
      · simp [IsDashed, startsWith, dropStart?]
      · decide
    have hrest : ¬IsDashed ("=" ++ text) := by simp [IsDashed, startsWith, dropStart?]
    exact not_isDashed_append hs (not_isDashed_append hslot hrest)

/-- A buffer of the specimen is overridden from the command line, with a size and a type. -/
theorem slots_overridable_iff_specimen :
    ∃ (o : Override) (c : Command) (cfg : Config),
      Override.parse ("k=" ++ "MemoryBuffer:4*$~char") = .ok ("k", o) ∧
      Site.specimen.qualifiedName = "ns::C::m" ∧
      (Command.parse {} {}
        ["c.hpp", "-m", "out.cpp", "-t", "ns::C::m#raw=MemoryBuffer:4*$~char"]).result = .ok c ∧
      Config.build c.underlying c.byParameter c.byType = .ok cfg ∧
      ∀ spelling, cfg.resolveParameter "ns::C::m" "raw" spelling = some o := by
  obtain ⟨o, ho⟩ : ∃ o, Override.parse ("k" ++ "=" ++ "MemoryBuffer:4*$~char") = .ok ("k", o) :=
    ⟨_, rfl⟩
  obtain ⟨hparameter, -, hcommand⟩ := slots_overridable_iff Site.specimen
    (Site.specimen.info.args.get ⟨3, by decide⟩) 3 ho
  obtain ⟨c, hc, hoverrides⟩ := hcommand {} {} "c.hpp" "out.cpp" (by decide) (by decide) (by decide)
    "#raw" (by decide)
  obtain ⟨cfg, hcfg, hfound⟩ := (hparameter c hoverrides).mpr
    ⟨⟨by decide, by decide, by decide⟩, by decide, fun hend => absurd hend (by decide)⟩
  exact ⟨o, c, cfg, ho, by decide, hc, hcfg, hfound⟩

/-- `bool C::operator==(int other)` -/
def Site.comparison : Site where
  routine := .method
  info :=
    { kind := .routine .method, spelling := "operator==", access := .opened, file := some "c.hpp"
      result := { kind := .bool, spelling := "bool" }
      args := [{ spelling := "other", type := { kind := .int, spelling := "int" } }] }
  enclosing := [{ kind := .classScope, spelling := "C" }, .wholeUnit]

/-- The parameter of a comparison operator cannot be overridden by its name: the key ends inside the
name of the operator, and the rest is refused. -/
theorem comparison_not_overridable :
    ∃ (arg : Argument) (o : Override) (c : Command), Site.comparison.isMockable = true ∧
      Site.comparison.qualifiedName = "C::operator==" ∧ Site.comparison.info.args = [arg] ∧
      arg.name 0 = "other" ∧ Override.isResultKey "k" = false ∧
      Override.parse ("k=" ++ "Int") = .ok ("k", o) ∧
      (Command.parse {} {} ["c.hpp", "-m", "out.cpp", "-t",
        "C::operator==#other=" ++ "Int"]).result = .ok c ∧
      (Config.build c.underlying c.byParameter c.byType).mapError ConfigError.message =
        .error "Invalid override option type <C::operator==#other=Int>." := by
  have hcommand := Command.parse_single {} {} (show ¬IsDashed "c.hpp" by decide)
    (show ¬IsDashed "out.cpp" by decide)
    (show ¬IsDashed ("C::operator==#other=" ++ "Int") by decide)
  exact ⟨_, _, _, by decide, by decide, rfl, by decide, by decide, rfl, hcommand, rfl⟩

end HeaderMock

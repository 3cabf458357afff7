import HeaderMock.Proofs.CommandLine.SingleOverride
import Mathlib.Data.List.Nodup

/-!
# The order of options

A table of overrides is built option by option and refuses a key that it holds already. What it
answers depends on the options alone and not on their order: whether options can stand in one table,
and which of them is found under a key, is said without the table.

## Main definitions

* `Override.key?`: the key of an option that is accepted.
* `OverrideTable.Admits`, `Config.Admits`: options that can stand in one table or configuration.
* `OverrideTable.Answers`: under each key the only option with this key is found.
* `Config.AnswersAlike`: configurations in which the same overrides are found.

## Main statements

* `OverrideTable.build_eq_ok_iff`: what a table that is built from options holds.
* `Config.exists_build_iff`: the options that a configuration can be built from.
* `override_order_irrelevant`: reordered options give configurations that answer alike.
-/

namespace HeaderMock

/-- The key of an option that is accepted. -/
def Override.key? (option : String) : Option String := (parse option).toOption.map (·.1)

theorem Override.key?_of_parse {option : String} {e : String × Override}
    (h : parse option = .ok e) : key? option = some e.1 := by
  simp [key?, h, Except.toOption]

@[simp, grind =] theorem Override.key?_eq_some_iff {option key : String} :
    key? option = some key ↔ ∃ o, parse option = .ok (key, o) := by
  unfold key?
  cases parse option with
  | error e => simp [Except.toOption]
  | ok e => simp [Except.toOption, Prod.ext_iff]

theorem Override.isTypeKey_iff {key : String} :
    isTypeKey key = true ↔ ∃ spelling, key = "@" ++ spelling ∨ key = "#" ++ spelling := by
  rw [isTypeKey, Bool.or_eq_true, Text.startsWith_iff, Text.startsWith_iff, ← exists_or]

/-- The key of an option starts as the option does. -/
theorem Override.isTypeKey_of_parse {option : String} {e : String × Override}
    (h : parse option = .ok e) : isTypeKey e.1 = isTypeKey option := by
  obtain ⟨spec, -, -, -, hsplit, -⟩ := parse_eq_ok_iff.mp h
  obtain ⟨rfl, -, hne, -⟩ := splitKey_eq_ok_iff.mp hsplit
  rw [String.append_assoc, isTypeKey_append hne]

/-! ## Tables -/

namespace OverrideTable

variable {options options' : List String} {table : OverrideTable} {key : String} {o : Override}

/-- The keys of a table, in the order of the options. -/
def keys (table : OverrideTable) : List String := table.map (·.1)

@[grind =] theorem lookup_eq_none_iff_notMem_keys : table.lookup key = none ↔ key ∉ table.keys := by
  simp only [List.lookup_eq_none_iff, bne_iff_ne, keys, List.mem_map, not_exists, not_and]
  exact forall₂_congr fun _ _ => ne_comm

/-- Where no key is repeated, an entry is found under its key. -/
theorem lookup_eq_some_iff_mem (h : table.keys.Nodup) :
    table.lookup key = some o ↔ (key, o) ∈ table := by
  constructor
  · intro hl
    obtain ⟨before, after, rfl, -⟩ := List.lookup_eq_some_iff.mp hl
    simp
  · intro hmem
    obtain ⟨before, after, rfl⟩ := List.append_of_mem hmem
    refine List.lookup_eq_some_iff.mpr ⟨before, after, rfl, fun e he => ?_⟩
    rw [keys, List.map_append, List.map_cons, List.nodup_middle, List.nodup_cons] at h
    rw [bne_iff_ne]
    intro heq
    exact h.1 (List.mem_append_left _ (List.mem_map.mpr ⟨e, he, heq.symm⟩))

/-- Adding an entry keeps the keys distinct exactly when its key is new. -/
@[simp, grind =] theorem nodup_keys_concat {e : String × Override} :
    (OverrideTable.keys (table ++ [e])).Nodup ↔ table.keys.Nodup ∧ table.lookup e.1 = none := by
  rw [lookup_eq_none_iff_notMem_keys, keys, List.map_append, List.map_singleton,
    List.nodup_append_comm, List.singleton_append, List.nodup_cons, and_comm]
  rfl

/-- Adding options to a table with distinct keys succeeds exactly when each of them is read and the
keys stay distinct. -/
theorem foldlM_add_eq_ok_iff {start : OverrideTable} (hstart : start.keys.Nodup) :
    options.foldlM OverrideTable.add start = .ok table ↔
      ∃ added, options.mapM Override.parse = .ok added ∧ table = start ++ added ∧
        table.keys.Nodup := by
  induction options generalizing start with
  | nil =>
    simp only [List.foldlM_nil, pure_eq_ok_iff, List.mapM_nil]
    constructor
    · rintro rfl
      exact ⟨[], rfl, by simp, hstart⟩
    · rintro ⟨_, rfl, rfl, -⟩
      simp
  | cons option options ih =>
    simp only [List.foldlM_cons, List.mapM_cons, bind_eq_ok_iff, pure_eq_ok_iff, add_eq_ok_iff]
    constructor
    · rintro ⟨_, ⟨e, he, hnew, rfl⟩, hrest⟩
      obtain ⟨added, hadded, rfl, hkeys⟩ := (ih (nodup_keys_concat.mpr ⟨hstart, hnew⟩)).mp hrest
      exact ⟨e :: added, ⟨e, he, added, hadded, rfl⟩, by simp, hkeys⟩
    · rintro ⟨_, ⟨e, he, added, hadded, rfl⟩, rfl, hkeys⟩
      have hsub : (start ++ [e]).Sublist (start ++ e :: added) := by simp
      have hnext : (OverrideTable.keys (start ++ [e])).Nodup := hkeys.sublist (hsub.map _)
      refine ⟨start ++ [e], ⟨e, he, (nodup_keys_concat.mp hnext).2, rfl⟩, ?_⟩
      exact (ih hnext).mpr ⟨added, hadded, by simp, hkeys⟩

/-- Building a table never fails for the sign of a key. -/
theorem build_ne_notATypeKey (key : String) :
    OverrideTable.build options ≠ .error (.notATypeKey key) := by
  unfold OverrideTable.build
  generalize ([] : OverrideTable) = start
  induction options generalizing start with
  | nil => simp [pure, Except.pure]
  | cons option options ih =>
    rw [List.foldlM_cons, ne_eq, bind_eq_error_iff]
    rintro (hadd | ⟨next, -, hrest⟩)
    · unfold OverrideTable.add at hadd
      rcases bind_eq_error_iff.mp hadd with hparse | ⟨⟨k, o⟩, -, hnew⟩
      · cases h : Override.parse option <;> simp [h] at hparse
      · dsimp only at hnew
        split at hnew <;> cases hnew
    · exact ih next hrest

/-- A table is what its options give in their order, with distinct keys. -/
theorem build_eq_ok_iff :
    OverrideTable.build options = .ok table ↔
      options.mapM Override.parse = .ok table ∧ table.keys.Nodup := by
  have hempty : (OverrideTable.keys []).Nodup := by simp [keys]
  rw [OverrideTable.build, foldlM_add_eq_ok_iff hempty]
  simp

/-- The keys of a table are those of its options. -/
theorem map_key?_eq (h : options.mapM Override.parse = .ok table) :
    options.map Override.key? = table.keys.map some := by
  rw [keys, List.map_map]
  refine List.forall₂_eq_eq_eq ▸ List.forall₂_map_left_iff.mpr (List.forall₂_map_right_iff.mpr ?_)
  exact (mapM_eq_ok_iff.mp h).imp fun _ _ hparse => Override.key?_of_parse hparse

/-- Options that can stand in one table: each is accepted, and no two have the same key. -/
structure Admits (options : List String) : Prop where
  accepted : ∀ option ∈ options, ∃ e, Override.parse option = .ok e
  distinct : (options.map Override.key?).Nodup

theorem nodup_keys_iff (h : options.mapM Override.parse = .ok table) :
    table.keys.Nodup ↔ (options.map Override.key?).Nodup := by
  rw [map_key?_eq h, List.nodup_map_iff fun _ _ => Option.some.inj]

theorem exists_build_iff : (∃ table, OverrideTable.build options = .ok table) ↔ Admits options := by
  simp only [build_eq_ok_iff]
  constructor
  · rintro ⟨table, hmap, hkeys⟩
    refine ⟨fun option hoption => ?_, (nodup_keys_iff hmap).mp hkeys⟩
    obtain ⟨e, -, he⟩ := exists_of_mem_of_forall₂ (mapM_eq_ok_iff.mp hmap).flip hoption
    exact ⟨e, he⟩
  · rintro ⟨haccepted, hdistinct⟩
    obtain ⟨table, hmap⟩ : ∃ table, options.mapM Override.parse = .ok table := by
      rw [← errorOf?_eq_none_iff, errorOf?_mapM fun _ _ => rfl, List.findSome?_eq_none_iff]
      exact fun option hoption => errorOf?_eq_none_iff.mpr (haccepted option hoption)
    exact ⟨table, hmap, (nodup_keys_iff hmap).mpr hdistinct⟩

/-- Whether options can stand in one table does not depend on their order. -/
theorem Admits.perm (h : Admits options) (hperm : options.Perm options') : Admits options' where
  accepted option hoption := h.accepted option (hperm.mem_iff.mpr hoption)
  distinct := (hperm.map Override.key?).nodup_iff.mp h.distinct

/-- A table holds what its options give. -/
theorem mem_iff_of_build (h : OverrideTable.build options = .ok table) {e : String × Override} :
    e ∈ table ↔ ∃ option ∈ options, Override.parse option = .ok e := by
  have hall := mapM_eq_ok_iff.mp (mapM_parse_of_build h)
  constructor
  · exact exists_of_mem_of_forall₂ hall
  · rintro ⟨option, hoption, hparse⟩
    obtain ⟨e', he', hparse'⟩ := exists_of_mem_of_forall₂ hall.flip hoption
    rwa [Except.ok.inj (hparse.symm.trans hparse')]

/-- What is found under a key is what some option gives. -/
theorem lookup_of_build (h : OverrideTable.build options = .ok table) :
    table.lookup key = some o ↔ ∃ option ∈ options, Override.parse option = .ok (key, o) := by
  rw [lookup_eq_some_iff_mem (build_eq_ok_iff.mp h).2, mem_iff_of_build h]

/-- Reordered options give tables in which the same overrides are found. -/
theorem lookup_perm {table' : OverrideTable} (h : OverrideTable.build options = .ok table)
    (h' : OverrideTable.build options' = .ok table') (hperm : options.Perm options') :
    table.lookup key = table'.lookup key := by
  refine Option.ext fun o => ?_
  simp only [lookup_of_build h, lookup_of_build h', hperm.mem_iff]

/-- `find` answers with the override of the only option with a key, and with nothing if there is no
option with this key. -/
structure Answers (options : List String) (find : String → Option Override) : Prop where
  found : ∀ key o, find key = some o ↔
    ∃ option, options.filter (Override.key? · == some key) = [option] ∧
      Override.parse option = .ok (key, o)
  missing : ∀ key, find key = none ↔ ∀ option ∈ options, Override.key? option ≠ some key

/-- Of options with distinct keys, one has the key of `option`. -/
theorem filter_key?_eq (h : (options.map Override.key?).Nodup) {option : String}
    (hoption : option ∈ options) :
    options.filter (Override.key? · == Override.key? option) = [option] := by
  obtain ⟨before, after, rfl⟩ := List.append_of_mem hoption
  rw [List.map_append, List.map_cons, List.nodup_middle, List.nodup_cons, ← List.map_append] at h
  have hother (a : String) (ha : a ∈ before ++ after) :
      (Override.key? a == Override.key? option) = false := by
    rw [beq_eq_false_iff_ne]
    exact fun heq => h.1 (heq ▸ List.mem_map_of_mem ha)
  rw [List.filter_append, List.filter_cons_of_pos (by simp),
    List.filter_eq_nil_iff.mpr fun a ha => by simp [hother a (by simp [ha])],
    List.filter_eq_nil_iff.mpr fun a ha => by simp [hother a (by simp [ha])]]
  rfl

theorem answers_of_build (h : OverrideTable.build options = .ok table) :
    Answers options (table.lookup ·) where
  found key o := by
    have hdistinct := (exists_build_iff.mp ⟨table, h⟩).distinct
    rw [lookup_of_build h]
    constructor
    · rintro ⟨option, hoption, hparse⟩
      refine ⟨option, ?_, hparse⟩
      rw [← filter_key?_eq hdistinct hoption, Override.key?_of_parse hparse]
    · rintro ⟨option, hfilter, hparse⟩
      exact ⟨option, (List.mem_filter.mp (hfilter ▸ List.mem_singleton_self option)).1, hparse⟩
  missing key := by
    rw [Option.eq_none_iff_forall_ne_some]
    simp only [ne_eq, lookup_of_build h, Override.key?_eq_some_iff]
    grind

end OverrideTable

/-! ## Configurations -/

namespace Config

variable {underlying : Bool} {parameters parameters' types types' : List String}
  {cfg cfg' : Config}

/-- Options that a configuration can be built from. -/
structure Admits (parameterOptions typeOptions : List String) : Prop where
  parameters : OverrideTable.Admits parameterOptions
  types : OverrideTable.Admits typeOptions
  typeKeys : ∀ option ∈ typeOptions, ∀ key, Override.key? option = some key →
    ∃ spelling, key = "@" ++ spelling ∨ key = "#" ++ spelling

/-- The same overrides are found in both configurations. -/
structure AnswersAlike (cfg cfg' : Config) : Prop where
  underlying : cfg.underlying = cfg'.underlying
  parameterOverride : ∀ key, cfg.parameterOverride key = cfg'.parameterOverride key
  typeOverride : ∀ key, cfg.typeOverride key = cfg'.typeOverride key
  resolveResult : ∀ function spelling,
    cfg.resolveResult function spelling = cfg'.resolveResult function spelling
  resolveParameter : ∀ function parameter spelling,
    cfg.resolveParameter function parameter spelling =
      cfg'.resolveParameter function parameter spelling

theorem exists_build_iff :
    (∃ cfg, Config.build underlying parameters types = .ok cfg) ↔ Admits parameters types := by
  simp only [build_eq_ok_iff]
  constructor
  · rintro ⟨cfg, hp, ht, hkeys, -⟩
    refine ⟨OverrideTable.exists_build_iff.mp ⟨_, hp⟩, OverrideTable.exists_build_iff.mp ⟨_, ht⟩,
      fun option hoption key hkey => ?_⟩
    obtain ⟨o, hparse⟩ := Override.key?_eq_some_iff.mp hkey
    have hmem := (OverrideTable.mem_iff_of_build ht).mpr ⟨option, hoption, hparse⟩
    exact Override.isTypeKey_iff.mp (hkeys _ hmem)
  · rintro ⟨hparameters, htypes, htypeKeys⟩
    obtain ⟨parameterTable, hp⟩ := OverrideTable.exists_build_iff.mpr hparameters
    obtain ⟨typeTable, ht⟩ := OverrideTable.exists_build_iff.mpr htypes
    refine ⟨⟨underlying, parameterTable, typeTable⟩, hp, ht, fun e he => ?_, rfl⟩
    obtain ⟨option, hoption, hparse⟩ := (OverrideTable.mem_iff_of_build ht).mp he
    exact Override.isTypeKey_iff.mpr (htypeKeys option hoption e.1 (Override.key?_of_parse hparse))

theorem Admits.perm (h : Admits parameters types) (hp : parameters.Perm parameters')
    (ht : types.Perm types') : Admits parameters' types' where
  parameters := h.parameters.perm hp
  types := h.types.perm ht
  typeKeys option hoption := h.typeKeys option (ht.mem_iff.mpr hoption)

theorem answersAlike_of_perm (h : Config.build underlying parameters types = .ok cfg)
    (h' : Config.build underlying parameters' types' = .ok cfg')
    (hp : parameters.Perm parameters') (ht : types.Perm types') : cfg.AnswersAlike cfg' := by
  obtain ⟨hparameters, htypes, -, hunderlying⟩ := build_eq_ok_iff.mp h
  obtain ⟨hparameters', htypes', -, hunderlying'⟩ := build_eq_ok_iff.mp h'
  have hparameter (key : String) : cfg.parameterOverride key = cfg'.parameterOverride key :=
    OverrideTable.lookup_perm hparameters hparameters' hp
  have htype (key : String) : cfg.typeOverride key = cfg'.typeOverride key :=
    OverrideTable.lookup_perm htypes htypes' ht
  refine ⟨hunderlying.trans hunderlying'.symm, hparameter, htype, fun _ _ => ?_, fun _ _ _ => ?_⟩
  · rw [resolveResult, resolveResult, hparameter, htype]
  · rw [resolveParameter, resolveParameter, hparameter, htype]

/-- Only an option of the table of types that does not start with a sign has a key that does not. -/
theorem exists_of_notATypeKey {key : String}
    (h : Config.build underlying parameters types = .error (.notATypeKey key)) :
    ∃ option ∈ types, Override.isTypeKey option = false := by
  simp only [Config.build, bind_eq_error_iff] at h
  rcases h with h | ⟨_, -, h | ⟨typeTable, ht, h⟩⟩
  · exact absurd h (OverrideTable.build_ne_notATypeKey key)
  · exact absurd h (OverrideTable.build_ne_notATypeKey key)
  · split at h
    · next e hfind =>
      have hkey := List.find?_some hfind
      obtain ⟨option, hoption, hparse⟩ :=
        (OverrideTable.mem_iff_of_build ht).mp (List.mem_of_find?_eq_some hfind)
      exact ⟨option, hoption, by simpa [Override.isTypeKey_of_parse hparse] using hkey⟩
    · cases h

end Config

/-- The order of options does not matter. Configurations are built from the same options in any
order, namely from options that are accepted and have distinct keys in each table, those of the
table of types with their sign in front; the same overrides are found in them, each that of the only
option with its key. The options that a command gives to the table of types all have their sign in
front. -/
theorem override_order_irrelevant (underlying : Bool)
    {parameters parameters' types types' : List String} (hp : parameters.Perm parameters')
    (ht : types.Perm types') :
    ((∃ cfg, Config.build underlying parameters types = .ok cfg) ↔
      ∃ cfg, Config.build underlying parameters' types' = .ok cfg) ∧
    (∀ cfg cfg', Config.build underlying parameters types = .ok cfg →
      Config.build underlying parameters' types' = .ok cfg' → cfg.AnswersAlike cfg') ∧
    ((∃ cfg, Config.build underlying parameters types = .ok cfg) ↔
      Config.Admits parameters types) ∧
    (∀ cfg, Config.build underlying parameters types = .ok cfg →
      OverrideTable.Answers parameters cfg.parameterOverride ∧
        OverrideTable.Answers types cfg.typeOverride) ∧
    ∀ (env : Environment) (t : FileTree) (args : List String) (c : Command),
      (Command.parse env t args).result = .ok c →
      ∀ key, Config.build underlying parameters c.byType ≠ .error (.notATypeKey key) := by
  refine ⟨?_, fun cfg cfg' h h' => Config.answersAlike_of_perm h h' hp ht, Config.exists_build_iff,
    fun cfg h => ?_, fun env t args c _ key h => ?_⟩
  · rw [Config.exists_build_iff, Config.exists_build_iff]
    exact ⟨fun h => h.perm hp ht, fun h => h.perm hp.symm ht.symm⟩
  · obtain ⟨hparameters, htypes, -, -⟩ := Config.build_eq_ok_iff.mp h
    exact ⟨OverrideTable.answers_of_build hparameters, OverrideTable.answers_of_build htypes⟩
  · obtain ⟨option, hoption, hkey⟩ := Config.exists_of_notATypeKey h
    have hsign : Override.isTypeKey option = true := (List.mem_filter.mp hoption).2
    simp [hkey] at hsign

/-- Two options of each table, swapped; a command with an option of the table of types. -/
theorem override_order_irrelevant_swapped :
    ∃ cfg cfg' c,
      Config.build true ["f#a=Int", "g@=Bool"] ["#T=Skip", "@T=Long"] = .ok cfg ∧
      Config.build true ["g@=Bool", "f#a=Int"] ["@T=Long", "#T=Skip"] = .ok cfg' ∧
      cfg.AnswersAlike cfg' ∧ Config.Admits ["f#a=Int", "g@=Bool"] ["#T=Skip", "@T=Long"] ∧
      cfg'.resolveParameter "f" "b" "T" = some { kind := .skip } ∧
      (Command.parse {} {} ["c.hpp", "-m", "out.cpp", "-t", "#T=Skip"]).result = .ok c ∧
      c.byType = ["#T=Skip"] ∧
      ∀ key, Config.build true ["f#a=Int", "g@=Bool"] c.byType ≠ .error (.notATypeKey key) := by
  obtain ⟨-, halike, hadmits, -, hsign⟩ := override_order_irrelevant true
    (List.Perm.swap "g@=Bool" "f#a=Int" []) (List.Perm.swap "@T=Long" "#T=Skip" [])
  obtain ⟨cfg, hcfg⟩ : ∃ cfg,
      Config.build true ["f#a=Int", "g@=Bool"] ["#T=Skip", "@T=Long"] = .ok cfg := ⟨_, rfl⟩
  obtain ⟨cfg', hcfg', hfound⟩ : ∃ cfg',
      Config.build true ["g@=Bool", "f#a=Int"] ["@T=Long", "#T=Skip"] = .ok cfg' ∧
        cfg'.resolveParameter "f" "b" "T" = some { kind := .skip } := ⟨_, rfl, by decide⟩
  have hcommand := Command.parse_single {} {} (show ¬IsDashed "c.hpp" by decide)
    (show ¬IsDashed "out.cpp" by decide) (show ¬IsDashed "#T=Skip" by decide)
  exact ⟨cfg, cfg', _, hcfg, hcfg', halike cfg cfg' hcfg hcfg', hadmits.mp ⟨cfg, hcfg⟩, hfound,
    hcommand, by decide, hsign _ _ _ _ hcommand⟩

end HeaderMock

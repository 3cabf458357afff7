import HeaderMock.Proofs.Override.Table
import HeaderMock.Proofs.Text.Split

/-!
# Keys of overrides

A key names a parameter or the result of a function, or all parameters or all results of a type. It
is written as one text, and overrides are looked up by that text. Two keys of one table that are
written alike are the same key, as long as names of parameters hold no sign that keys are made of;
so a configuration with one more option finds the same overrides under every other key.

## Main definitions

* `OverrideKey`: what a key names.
* `Config.override`: the override under a key.
* `Config.Extends`: a configuration with one more option.
* `OverrideKey.picksParameter`, `OverrideKey.picksResult`: the slots that a key is looked up for.

## Main statements

* `OverrideKey.text_inj`: keys of one table that are written alike are the same.
* `OverrideTable.mapM_parse_of_build`: a table holds what its options give, in their order.
* `Config.Extends.override_eq`: other keys are not affected by one more option.
* `Config.Extends.resolveParameter_eq`, `Config.Extends.resolveResult_eq`: neither are the slots
  that its key does not pick.
-/

namespace HeaderMock

/-- What the key of an override names. -/
inductive OverrideKey where
  | parameter (function name : String)
  | result (function : String)
  | parameterType (spelling : String)
  | resultType (spelling : String)
  deriving Repr, DecidableEq

namespace OverrideKey

def text : OverrideKey → String
  | .parameter function name => function ++ "#" ++ name
  | .result function => function ++ "@"
  | .parameterType spelling => "#" ++ spelling
  | .resultType spelling => "@" ++ spelling

/-- The key stands in the table of types. -/
def isByType : OverrideKey → Bool
  | .parameter .. | .result _ => false
  | .parameterType _ | .resultType _ => true

/-- The name of a parameter in a key holds no sign that keys are made of. -/
def IsPlain : OverrideKey → Prop
  | .parameter _ name => '#' ∉ name.toList ∧ '@' ∉ name.toList
  | _ => True

instance : (key : OverrideKey) → Decidable key.IsPlain
  | .parameter _ name => inferInstanceAs (Decidable ('#' ∉ name.toList ∧ '@' ∉ name.toList))
  | .result _ | .parameterType _ | .resultType _ => .isTrue trivial

/-- A text is cut at its last separator in one way only. -/
private theorem append_sep_inj {sep : Char} {a b a' b' : List Char} (hb : sep ∉ b) (hb' : sep ∉ b')
    (h : a ++ sep :: b = a' ++ sep :: b') : a = a' ∧ b = b' := by
  have hrev : b.reverse ++ sep :: a.reverse = b'.reverse ++ sep :: a'.reverse := by
    simpa using congrArg List.reverse h
  have hcut := congrArg (Text.cut sep) hrev
  rw [Text.cut_append (by simpa using hb), Text.cut_append (by simpa using hb')] at hcut
  simpa [and_comm] using hcut

/-- The text of a parameter's key ends in the name or in `#`, never in `@`. -/
private theorem parameter_text_ne_result_text {function function' name : String}
    (h : '@' ∉ name.toList) : (parameter function name).text ≠ (result function').text := by
  intro heq
  have hlast := congrArg (fun s : String => s.toList.getLast?) heq
  simp only [text, String.toList_append, String.reduceToList, List.append_assoc,
    List.cons_append, List.nil_append, List.getLast?_append, List.getLast?_cons] at hlast
  cases hname : name.toList.getLast? with
  | none => simp [hname] at hlast
  | some c =>
    obtain rfl : c = '@' := by simpa [hname] using hlast
    exact h (List.mem_of_getLast? hname)

/-- Keys of one table that are written alike are the same. -/
theorem text_inj {k k' : OverrideKey} (ht : k.isByType = k'.isByType) (hk : k.IsPlain)
    (hk' : k'.IsPlain) (h : k.text = k'.text) : k = k' := by
  cases k with
  | parameter function name =>
    cases k' with
    | parameter function' name' =>
      have hl := congrArg String.toList h
      simp only [text, String.toList_append, String.reduceToList, List.append_assoc,
        List.cons_append, List.nil_append] at hl
      obtain ⟨hf, hn⟩ := append_sep_inj hk.1 hk'.1 hl
      rw [String.toList_inj.mp hf, String.toList_inj.mp hn]
    | result => exact absurd h (parameter_text_ne_result_text hk.2)
    | parameterType | resultType => cases ht
  | result function =>
    cases k' with
    | parameter => exact absurd h.symm (parameter_text_ne_result_text hk'.2)
    | result function' => simpa [text] using h
    | parameterType | resultType => cases ht
  | parameterType spelling =>
    cases k' with
    | parameterType spelling' => simpa [text] using h
    | resultType => simp [text, ← String.toList_inj] at h
    | parameter | result => cases ht
  | resultType spelling =>
    cases k' with
    | resultType spelling' => simpa [text] using h
    | parameterType => simp [text, ← String.toList_inj] at h
    | parameter | result => cases ht

end OverrideKey

/-! ## Options -/

namespace Override

theorem splitKey_eq_ok_iff {option key spec : String} :
    splitKey option = .ok (key, spec) ↔
      option = key ++ "=" ++ spec ∧ '=' ∉ key.toList ∧ key ≠ "" ∧ spec ≠ "" := by
  have hcut : Text.cutAt '=' option = (key, some spec) ↔
      option = key ++ "=" ++ spec ∧ '=' ∉ key.toList := by
    rw [Text.cutAt_eq_iff, String.append_assoc]
    rfl
  constructor
  · intro h
    unfold splitKey at h
    split at h
    · cases h
    · next found =>
      split at h
      · cases h
      · next hkey =>
        split at h
        · cases h
        · next hspec =>
          cases h
          obtain ⟨hoption, hsep⟩ := hcut.mp found
          exact ⟨hoption, hsep, hkey, hspec⟩
  · rintro ⟨hoption, hsep, hkey, hspec⟩
    rw [splitKey, hcut.mpr ⟨hoption, hsep⟩]
    simp [hkey, hspec]

/-- What stands behind `=` is read the same under every key that it may stand under. -/
theorem parse_append_iff {k key text : String} {o : Override}
    (h : parse (k ++ "=" ++ text) = .ok (k, o)) :
    parse (key ++ "=" ++ text) = .ok (key, o) ↔
      '=' ∉ key.toList ∧ key ≠ "" ∧ (isResultKey key = true → o.kind.slot.isValue) := by
  obtain ⟨spec, rest, front, type, hsplit, hexpr, hexpect, hkind, -⟩ := parse_eq_ok_iff.mp h
  obtain ⟨htext, -, -, hne⟩ := splitKey_eq_ok_iff.mp hsplit
  obtain rfl : text = spec := by simpa using htext
  constructor
  · intro hparse
    obtain ⟨_, _, _, _, hsplit', -, -, -, hvalue⟩ := parse_eq_ok_iff.mp hparse
    obtain ⟨-, hsep, hkey, -⟩ := splitKey_eq_ok_iff.mp hsplit'
    exact ⟨hsep, hkey, hvalue⟩
  · rintro ⟨hsep, hkey, hvalue⟩
    exact parse_eq_ok_iff.mpr ⟨text, rest, front, type,
      splitKey_eq_ok_iff.mpr ⟨rfl, hsep, hkey, hne⟩, hexpr, hexpect, hkind, hvalue⟩

end Override

/-! ## Tables of options -/

namespace OverrideTable

theorem add_eq_ok_iff {table table' : OverrideTable} {option : String} :
    table.add option = .ok table' ↔
      ∃ e, Override.parse option = .ok e ∧ table.lookup e.1 = none ∧ table' = table ++ [e] := by
  simp only [OverrideTable.add, bind_eq_ok_iff, mapError_eq_ok_iff]
  constructor
  · rintro ⟨e, he, h⟩
    split at h
    · cases h
    · next hnew => exact ⟨e, he, Option.not_isSome_iff_eq_none.mp hnew, (Except.ok.inj h).symm⟩
  · rintro ⟨e, he, hnew, rfl⟩
    exact ⟨e, he, by simp [hnew]⟩

theorem build_singleton_iff {option : String} {table : OverrideTable} :
    OverrideTable.build [option] = .ok table ↔
      ∃ e, Override.parse option = .ok e ∧ table = [e] := by
  simp [OverrideTable.build, add_eq_ok_iff]

/-- Options are added at the end of a table, in their order. -/
theorem exists_of_foldlM {options : List String} {start table : OverrideTable}
    (h : options.foldlM OverrideTable.add start = .ok table) :
    ∃ added, options.mapM Override.parse = .ok added ∧ table = start ++ added := by
  induction options generalizing start with
  | nil =>
    obtain rfl : start = table := by simpa using h
    exact ⟨[], by simp, by simp⟩
  | cons option options ih =>
    simp only [List.foldlM_cons, bind_eq_ok_iff, add_eq_ok_iff] at h
    obtain ⟨_, ⟨e, he, -, rfl⟩, hrest⟩ := h
    obtain ⟨added, hadded, rfl⟩ := ih hrest
    exact ⟨e :: added, by simp [List.mapM_cons, he, hadded], by simp⟩

/-- A table holds what its options give, in their order. -/
theorem mapM_parse_of_build {options : List String} {table : OverrideTable}
    (h : OverrideTable.build options = .ok table) : options.mapM Override.parse = .ok table := by
  obtain ⟨added, hadded, rfl⟩ := exists_of_foldlM h
  exact hadded

/-- One more option changes a table under the key of the option only. -/
theorem lookup_of_build_insert {before after : List String} {option key key' : String}
    {o : Override} {table table' : OverrideTable}
    (h : OverrideTable.build (before ++ after) = .ok table)
    (h' : OverrideTable.build (before ++ option :: after) = .ok table')
    (ho : Override.parse option = .ok (key, o)) (hne : key' ≠ key) :
    table'.lookup key' = table.lookup key' := by
  have hall := mapM_parse_of_build h
  have hall' := mapM_parse_of_build h'
  simp only [List.mapM_append, List.mapM_cons, ho, bind_eq_ok_iff, pure_eq_ok_iff] at hall hall'
  obtain ⟨front, hfront, back, hback, rfl⟩ := hall
  obtain ⟨front', hfront', _, ⟨e, he, back', hback', rfl⟩, rfl⟩ := hall'
  obtain rfl := Except.ok.inj he
  rw [Except.ok.inj (hfront.symm.trans hfront'), Except.ok.inj (hback.symm.trans hback'),
    List.lookup_append, List.lookup_append, List.lookup_cons, beq_eq_false_iff_ne.mpr hne]

end OverrideTable

/-! ## Configurations -/

namespace Config

theorem build_eq_ok_iff {underlying : Bool} {parameterOptions typeOptions : List String}
    {cfg : Config} :
    Config.build underlying parameterOptions typeOptions = .ok cfg ↔
      OverrideTable.build parameterOptions = .ok cfg.parameters ∧
      OverrideTable.build typeOptions = .ok cfg.types ∧
      (∀ e ∈ cfg.types, Override.isTypeKey e.1 = true) ∧ cfg.underlying = underlying := by
  simp only [Config.build, bind_eq_ok_iff]
  constructor
  · rintro ⟨parameters, hp, types, ht, h⟩
    split at h
    · cases h
    · next hnone =>
      cases h
      exact ⟨hp, ht, by simpa using hnone, rfl⟩
  · rintro ⟨hp, ht, hkeys, rfl⟩
    have hnone : cfg.types.find? (!Override.isTypeKey ·.1) = none := by simpa using hkeys
    exact ⟨cfg.parameters, hp, cfg.types, ht, by rw [hnone]⟩

/-- The override under a key. -/
def override (cfg : Config) (key : OverrideKey) : Option Override :=
  if key.isByType then cfg.typeOverride key.text else cfg.parameterOverride key.text

theorem resolveParameter_eq_override (cfg : Config) (function name spelling : String) :
    cfg.resolveParameter function name spelling =
      (cfg.override (.parameter function name)).or (cfg.override (.parameterType spelling)) :=
  rfl

theorem resolveResult_eq_override (cfg : Config) (function spelling : String) :
    cfg.resolveResult function spelling =
      (cfg.override (.result function)).or (cfg.override (.resultType spelling)) :=
  rfl

/-- `cfg'` is built from the options of `cfg` and one more, whose key is `key`. -/
inductive Extends (key : OverrideKey) (cfg cfg' : Config) : Prop where
  | parameters {underlying : Bool} {before after types : List String} {option : String}
      {o : Override} (hkey : key.isByType = false)
      (ho : Override.parse option = .ok (key.text, o))
      (h : Config.build underlying (before ++ after) types = .ok cfg)
      (h' : Config.build underlying (before ++ option :: after) types = .ok cfg')
  | types {underlying : Bool} {parameters before after : List String} {option : String}
      {o : Override} (hkey : key.isByType = true)
      (ho : Override.parse option = .ok (key.text, o))
      (h : Config.build underlying parameters (before ++ after) = .ok cfg)
      (h' : Config.build underlying parameters (before ++ option :: after) = .ok cfg')

namespace Extends

variable {key k : OverrideKey} {cfg cfg' : Config}

theorem underlying_eq (h : Extends key cfg cfg') : cfg'.underlying = cfg.underlying := by
  cases h with
  | parameters _ _ h h' | types _ _ h h' =>
    rw [(build_eq_ok_iff.mp h).2.2.2, (build_eq_ok_iff.mp h').2.2.2]

/-- Other keys are not affected by one more option. -/
theorem override_eq (h : Extends key cfg cfg') (hkey : key.IsPlain) (hk : k.IsPlain)
    (hne : k ≠ key) : cfg'.override k = cfg.override k := by
  have hdistinct (ht : k.isByType = key.isByType) : k.text ≠ key.text := fun heq =>
    hne (OverrideKey.text_inj ht hk hkey heq)
  unfold override
  cases h with
  | parameters hbytype ho h h' =>
    obtain ⟨hp, ht, -, -⟩ := build_eq_ok_iff.mp h
    obtain ⟨hp', ht', -, -⟩ := build_eq_ok_iff.mp h'
    split
    · simp only [typeOverride, Except.ok.inj (ht.symm.trans ht')]
    · next hk' =>
      have heq : k.isByType = key.isByType := by rw [hbytype]; simpa using hk'
      exact OverrideTable.lookup_of_build_insert hp hp' ho (hdistinct heq)
  | types hbytype ho h h' =>
    obtain ⟨hp, ht, -, -⟩ := build_eq_ok_iff.mp h
    obtain ⟨hp', ht', -, -⟩ := build_eq_ok_iff.mp h'
    split
    · next hk' =>
      exact OverrideTable.lookup_of_build_insert ht ht' ho (hdistinct (hk'.trans hbytype.symm))
    · simp only [parameterOverride, Except.ok.inj (hp.symm.trans hp')]

end Extends

end Config

/-! ## Slots that a key is looked up for -/

namespace OverrideKey

/-- The key can decide about the parameter `name` of `function`; one of a type only does so where
the parameter has no override of its own. -/
def picksParameter (key : OverrideKey) (cfg : Config) (function name spelling : String) : Bool :=
  match key with
  | .parameter f n => f == function && n == name
  | .parameterType t => t == spelling && (cfg.override (.parameter function name)).isNone
  | .result _ | .resultType _ => false

/-- The key can decide about the result of `function`. -/
def picksResult (key : OverrideKey) (cfg : Config) (function spelling : String) : Bool :=
  match key with
  | .result f => f == function
  | .resultType t => t == spelling && (cfg.override (.result function)).isNone
  | .parameter .. | .parameterType _ => false

end OverrideKey

namespace Config.Extends

variable {key : OverrideKey} {cfg cfg' : Config} {function name spelling : String}

/-- The key of a slot wins over the key of its type, so the latter only matters without the
former. -/
private theorem or_eq_or {own own' byType byType' : Option Override} (hown : own' = own)
    (hby : own = none → byType' = byType) : own'.or byType' = own.or byType := by
  subst hown
  cases own' with
  | none => simpa using hby rfl
  | some o => rfl

theorem resolveParameter_eq (h : Extends key cfg cfg') (hkey : key.IsPlain)
    (hname : (OverrideKey.parameter function name).IsPlain)
    (hp : key.picksParameter cfg function name spelling = false) :
    cfg'.resolveParameter function name spelling = cfg.resolveParameter function name spelling := by
  rw [resolveParameter_eq_override, resolveParameter_eq_override]
  apply or_eq_or
  · refine h.override_eq hkey hname ?_
    rintro rfl
    simp [OverrideKey.picksParameter] at hp
  · intro hnone
    refine h.override_eq hkey trivial ?_
    rintro rfl
    simp [OverrideKey.picksParameter, hnone] at hp

theorem resolveResult_eq (h : Extends key cfg cfg') (hkey : key.IsPlain)
    (hp : key.picksResult cfg function spelling = false) :
    cfg'.resolveResult function spelling = cfg.resolveResult function spelling := by
  rw [resolveResult_eq_override, resolveResult_eq_override]
  apply or_eq_or
  · refine h.override_eq hkey trivial ?_
    rintro rfl
    simp [OverrideKey.picksResult] at hp
  · intro hnone
    refine h.override_eq hkey trivial ?_
    rintro rfl
    simp [OverrideKey.picksResult, hnone] at hp

end Config.Extends

end HeaderMock

import HeaderMock.CommandLine.ConfigFile
import HeaderMock.Proofs.Text.Split
import Mathlib.Logic.Basic

/-!
# Options that name configuration files

What the arguments of one source are made of: words, and names of configuration files.

## Main definitions

* `ConfigFile.Scans`: the words and names of some arguments, from left to right.
* `ConfigFile.scan`: the same as a function.

## Main statements

* `ConfigFile.scans_iff`: arguments are scanned in exactly one way.
* `ConfigFile.Scans.next_word`, `ConfigFile.Scans.next_file`: what the first argument is taken for.
-/

namespace HeaderMock.ConfigFile

/-- A part of some arguments: a word, or the name of a configuration file. -/
inductive Item where
  | word (text : String)
  | file (name : String)
  deriving Repr, DecidableEq

/-- An argument whose next one names a configuration file. -/
def IsOption (arg : String) : Prop := arg = "-f" ∨ arg = "--config-file"

instance (arg : String) : Decidable (IsOption arg) :=
  inferInstanceAs (Decidable (arg = "-f" ∨ arg = "--config-file"))

/-- An argument that holds the option and the name together. -/
def Joins (arg name : String) : Prop :=
  arg = "--config-file=" ++ name ∨ name ≠ "" ∧ arg = "-f" ++ name

/-- The parts of some arguments, from left to right. An option that no name follows is a word. -/
inductive Scans : List String → List Item → Prop
  | nil : Scans [] []
  | separate {option name : String} {args : List String} {items : List Item} :
      IsOption option → Scans args items → Scans (option :: name :: args) (.file name :: items)
  | joined {arg name : String} {args : List String} {items : List Item} :
      Joins arg name → Scans args items → Scans (arg :: args) (.file name :: items)
  | dangling {option : String} : IsOption option → Scans [option] [.word option]
  | word {arg : String} {args : List String} {items : List Item} :
      ¬IsOption arg → (∀ name, ¬Joins arg name) → Scans args items →
        Scans (arg :: args) (.word arg :: items)

theorem second_of_short (name : String) : ("-f" ++ name).toList[1]? = some 'f' := by simp

theorem second_of_long (name : String) : ("--config-file=" ++ name).toList[1]? = some '-' := by simp

theorem long_ne_short (name name' : String) : "--config-file=" ++ name ≠ "-f" ++ name' := by
  intro h
  have hsecond := second_of_long name
  rw [h, second_of_short] at hsecond
  simp at hsecond

theorem Joins.not_isOption {arg name : String} (h : Joins arg name) : ¬IsOption arg := by
  rcases h with rfl | ⟨hne, rfl⟩
  · rintro (h | h)
    · exact long_ne_short name "" h
    · have hlength := congrArg String.length h
      rw [String.length_append, show "--config-file=".length = 14 from rfl,
        show "--config-file".length = 13 from rfl] at hlength
      omega
  · rintro (h | h)
    · exact hne (by simpa using h)
    · have hsecond := second_of_short name
      rw [h] at hsecond
      simp at hsecond

@[simp, grind =] theorem joinedPath?_eq_some_iff {arg name : String} :
    joinedPath? arg = some name ↔ Joins arg name := by
  unfold joinedPath?
  split
  · next r hr =>
    rw [Text.dropStart?_toList_eq_some_iff] at hr
    subst hr
    simp [Joins, long_ne_short]
  · next hlong =>
    have hlong (name : String) : arg ≠ "--config-file=" ++ name := by
      intro h
      have hsome : Text.dropStart? "--config-file=".toList arg.toList = some name.toList :=
        Text.dropStart?_toList_eq_some_iff.mpr (by simpa using h)
      rw [hsome] at hlong
      simp at hlong
    have hshort : Joins arg name ↔
        name ≠ "" ∧ Text.dropStart? "-f".toList arg.toList = some name.toList := by
      rw [Text.dropStart?_toList_eq_some_iff, String.ofList_toList]
      simp [Joins, hlong]
    rw [hshort]
    split
    · next c r hr =>
      rw [hr, Option.some.injEq, Option.some.injEq]
      constructor
      · rintro rfl
        simp
      · rintro ⟨-, h⟩
        rw [h, String.ofList_toList]
    · next hnone =>
      simp only [false_iff, not_and, reduceCtorEq]
      intro hne hsome
      obtain ⟨c, r, hname⟩ := List.exists_cons_of_ne_nil (mt String.toList_eq_nil_iff.mp hne)
      exact hnone c r (hsome.trans (by rw [hname]))

theorem next_option {option : String} (h : IsOption option) (name : String) (args : List String) :
    next option (name :: args) = .file name args := by
  unfold next
  exact if_pos h

theorem next_dangling {option : String} (h : IsOption option) :
    next option [] = .keep option [] := by
  unfold next
  exact if_pos h

theorem next_joined {arg name : String} (h : Joins arg name) (args : List String) :
    next arg args = .file name args := by
  have hjoined := joinedPath?_eq_some_iff.mpr h
  unfold next
  rw [if_neg (show ¬(_ ∨ _) from h.not_isOption), hjoined]

theorem next_word {arg : String} (ho : ¬IsOption arg) (hj : ∀ name, ¬Joins arg name)
    (args : List String) : next arg args = .keep arg args := by
  have hnone : joinedPath? arg = none := by
    refine Option.eq_none_iff_forall_ne_some.mpr fun name hname => ?_
    exact hj name (joinedPath?_eq_some_iff.mp hname)
  unfold next
  rw [if_neg (show ¬(_ ∨ _) from ho), hnone]

/-- An argument that is no option. -/
def part (arg : String) : Item :=
  match joinedPath? arg with
  | some name => .file name
  | none => .word arg

/-- The parts of some arguments. -/
def scan : List String → List Item
  | [] => []
  | [arg] => if IsOption arg then [.word arg] else [part arg]
  | arg :: name :: args =>
    if IsOption arg then .file name :: scan args else part arg :: scan (name :: args)

theorem Scans.cons_part {arg : String} {args : List String} {items : List Item}
    (ho : ¬IsOption arg) (h : Scans args items) : Scans (arg :: args) (part arg :: items) := by
  unfold part
  split
  · next name hname => exact .joined (joinedPath?_eq_some_iff.mp hname) h
  · next hnone =>
    refine .word ho (fun name hj => ?_) h
    simp [joinedPath?_eq_some_iff.mpr hj] at hnone

theorem scans_scan (args : List String) : Scans args (scan args) := by
  fun_induction scan args with
  | case1 => exact .nil
  | case2 arg ho => exact .dangling ho
  | case3 arg ho => exact .cons_part ho .nil
  | case4 arg name args ho ih => exact .separate ho ih
  | case5 arg name args ho ih => exact .cons_part ho ih

/-- A word that is scanned first is kept first. -/
theorem Scans.next_word {args : List String} {text : String} {items : List Item}
    (h : Scans args (.word text :: items)) :
    ∃ arg args' rest, args = arg :: args' ∧ next arg args' = .keep text rest ∧
      Scans rest items := by
  cases h with
  | dangling ho => exact ⟨_, _, _, rfl, next_dangling ho, .nil⟩
  | word ho hj h => exact ⟨_, _, _, rfl, ConfigFile.next_word ho hj _, h⟩

/-- A name that is scanned first is read first. -/
theorem Scans.next_file {args : List String} {name : String} {items : List Item}
    (h : Scans args (.file name :: items)) :
    ∃ arg args' rest, args = arg :: args' ∧ next arg args' = .file name rest ∧
      Scans rest items := by
  cases h with
  | separate ho h => exact ⟨_, _, _, rfl, next_option ho _ _, h⟩
  | joined hj h => exact ⟨_, _, _, rfl, next_joined hj _, h⟩

theorem Scans.of_nil {args : List String} (h : Scans args []) : args = [] := by
  cases h
  rfl

/-- Arguments are scanned in one way only. -/
theorem Scans.unique {args : List String} {items items' : List Item} (h : Scans args items)
    (h' : Scans args items') : items = items' := by
  induction items generalizing args items' with
  | nil =>
    obtain rfl := h.of_nil
    cases h'
    rfl
  | cons item items ih =>
    cases items' with
    | nil =>
      obtain rfl := h'.of_nil
      cases h
    | cons item' items' =>
      cases item with
      | word text =>
        obtain ⟨arg, args', rest, rfl, hn, hrest⟩ := h.next_word
        cases item' with
        | word text' =>
          obtain ⟨_, _, rest', heq, hn', hrest'⟩ := h'.next_word
          obtain ⟨rfl, rfl⟩ := List.cons.inj heq
          obtain ⟨rfl, rfl⟩ := Next.keep.inj (hn.symm.trans hn')
          rw [ih hrest hrest']
        | file name' =>
          obtain ⟨_, _, rest', heq, hn', -⟩ := h'.next_file
          obtain ⟨rfl, rfl⟩ := List.cons.inj heq
          cases hn.symm.trans hn'
      | file name =>
        obtain ⟨arg, args', rest, rfl, hn, hrest⟩ := h.next_file
        cases item' with
        | word text' =>
          obtain ⟨_, _, rest', heq, hn', -⟩ := h'.next_word
          obtain ⟨rfl, rfl⟩ := List.cons.inj heq
          cases hn.symm.trans hn'
        | file name' =>
          obtain ⟨_, _, rest', heq, hn', hrest'⟩ := h'.next_file
          obtain ⟨rfl, rfl⟩ := List.cons.inj heq
          obtain ⟨rfl, rfl⟩ := Next.file.inj (hn.symm.trans hn')
          rw [ih hrest hrest']

theorem scans_iff {args : List String} {items : List Item} : Scans args items ↔ scan args = items :=
  ⟨fun h => (scans_scan args).unique h, fun h => h ▸ scans_scan args⟩

instance (args : List String) (items : List Item) : Decidable (Scans args items) :=
  decidable_of_iff _ scans_iff.symm

/-- A word that looks like naming a file is an option that stands last. -/
theorem Scans.of_word_mem {args : List String} {items : List Item} {text : String}
    (h : Scans args items) (hw : .word text ∈ items) :
    (¬IsOption text ∧ ∀ name, ¬Joins text name) ∨
      IsOption text ∧ items.getLast? = some (.word text) := by
  have hcons {item : Item} {items : List Item} (hlast : items.getLast? = some (.word text)) :
      (item :: items).getLast? = some (.word text) := by
    simp [List.getLast?_cons, hlast]
  induction h with
  | nil => simp at hw
  | separate _ _ ih | joined _ _ ih =>
    exact (ih (by simpa using hw)).imp_right fun h => ⟨h.1, hcons h.2⟩
  | dangling ho =>
    obtain rfl : text = _ := by simpa using hw
    exact .inr ⟨ho, rfl⟩
  | word ho hj _ ih =>
    rcases List.mem_cons.mp hw with heq | hw
    · obtain rfl : text = _ := by simpa using heq
      exact .inl ⟨ho, hj⟩
    · exact (ih hw).imp_right fun h => ⟨h.1, hcons h.2⟩

end HeaderMock.ConfigFile

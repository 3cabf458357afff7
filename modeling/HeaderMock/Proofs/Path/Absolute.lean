import HeaderMock.FileTree
import HeaderMock.Proofs.Text.Split
import Mathlib.Data.List.Infix

/-!
# Absolute paths

What the operations on paths do to the absolute path that a path stands for. Without its detours a
path stands for the same absolute path, a relative name is resolved from the directory that it is
joined to, and the directory of a file is found by leaving out its name. None of this depends on how
the paths are spelled.

## Main statements

* `Path.absolute_normalize`, `Path.absolute_join`, `Path.absolute_dirName`: the absolute paths.
* `Path.absolute_sibling`: a name next to a file depends on the file's absolute path only.
* `Path.isName_baseName_of_read`: a path without detours that can be read ends in a name.
-/

namespace HeaderMock

open Text

namespace Path

/-- A component that goes one directory down. -/
def IsName (component : String) : Prop := component ≠ "" ∧ component ≠ "." ∧ component ≠ ".."

/-- A component that leads nowhere else. -/
def IsStay (component : String) : Prop := component = "" ∨ component = "."

@[simp, grind =] theorem resolve_append (loc : Location) (cs cs' : List String) :
    FileTree.resolve loc (cs ++ cs') = FileTree.resolve (FileTree.resolve loc cs) cs' :=
  List.foldl_append

theorem resolve_of_isStay {loc : Location} {cs : List String} (h : ∀ c ∈ cs, IsStay c) :
    FileTree.resolve loc cs = loc := by
  induction cs with
  | nil => rfl
  | cons c cs ih =>
    have hc : FileTree.step loc c = loc := if_pos (h c (by simp))
    rw [FileTree.resolve, List.foldl_cons, hc]
    exact ih fun c' hc' => h c' (by simp [hc'])

theorem step_of_isName {loc : Location} {c : String} (h : IsName c) :
    FileTree.step loc c = loc ++ [c] := by
  rw [FileTree.step, if_neg (by simp [h.1, h.2.1]), if_neg h.2.2]

/-! ## Components -/

theorem components_ofList_append (a b : List Char) :
    components (String.ofList (a ++ '/' :: b)) =
      components (String.ofList a) ++ components (String.ofList b) := by
  simp [components]

@[simp, grind =] theorem components_append_slash (a b : String) :
    components (a ++ "/" ++ b) = components a ++ components b := by
  simpa [String.append_assoc] using components_ofList_append a.toList b.toList

theorem components_of_notMem {s : String} (h : '/' ∉ s.toList) : components s = [s] := by
  simp [components, splitAll_of_notMem h]

/-- Slashes have no component but empty ones between them. -/
theorem isStay_of_mem_components_slashes {s : List Char} (h : ∀ c ∈ s, (c == '/') = true) :
    ∀ c ∈ components (String.ofList s), IsStay c := by
  induction s with
  | nil => simp [components, splitAll, IsStay]
  | cons c s ih =>
    obtain rfl : c = '/' := by simpa using h c (by simp)
    have := components_ofList_append [] s
    rw [List.nil_append] at this
    rw [this]
    intro d hd
    rcases List.mem_append.mp hd with hd | hd
    · simp_all [components, splitAll, IsStay]
    · exact ih (fun e he => h e (by simp [he])) d hd

/-- Slashes at the end lead nowhere else. -/
theorem resolve_components_append_slashes (loc : Location) (d : List Char) {slashes : List Char}
    (h : ∀ c ∈ slashes, (c == '/') = true) :
    FileTree.resolve loc (components (String.ofList (d ++ slashes))) =
      FileTree.resolve loc (components (String.ofList d)) := by
  cases slashes with
  | nil => simp
  | cons c slashes =>
    obtain rfl : c = '/' := by simpa using h c (by simp)
    rw [components_ofList_append, resolve_append, resolve_of_isStay]
    exact isStay_of_mem_components_slashes fun e he => h e (by simp [he])

/-! ## The start of a path -/

theorem rootSlashes_of_ne {c : Char} {s : List Char} (hc : c ≠ '/') :
    rootSlashes (String.ofList (c :: s)) = "" := by
  simp [rootSlashes, hc]

theorem rootSlashes_one {s : List Char} (hs : s.head? ≠ some '/') :
    rootSlashes (String.ofList ('/' :: s)) = "/" := by
  cases s with
  | nil => simp [rootSlashes]
  | cons d s =>
    have hd : d ≠ '/' := by simpa using hs
    simp [rootSlashes, hd]

theorem rootSlashes_two {s : List Char} (hs : s.head? ≠ some '/') :
    rootSlashes (String.ofList ('/' :: '/' :: s)) = "//" := by
  cases s with
  | nil => simp [rootSlashes]
  | cons d s =>
    have hd : d ≠ '/' := by simpa using hs
    simp [rootSlashes, hd]

theorem rootSlashes_three (s : List Char) :
    rootSlashes (String.ofList ('/' :: '/' :: '/' :: s)) = "/" := by
  simp [rootSlashes]

/-- How many slashes a path starts with is seen from a start of it that is not followed by more of
them. -/
theorem rootSlashes_append {d y : List Char} (hne : d ≠ [])
    (h : y.head? ≠ some '/' ∨ ∃ c ∈ d, c ≠ '/') :
    rootSlashes (String.ofList (d ++ y)) = rootSlashes (String.ofList d) := by
  match d with
  | [] => exact absurd rfl hne
  | c₁ :: d =>
    by_cases h₁ : c₁ = '/'
    swap
    · rw [List.cons_append, rootSlashes_of_ne h₁, rootSlashes_of_ne h₁]
    subst h₁
    match d with
    | [] =>
      have hy : y.head? ≠ some '/' := by simpa using h
      rw [List.singleton_append, rootSlashes_one hy, rootSlashes_one (by simp)]
    | c₂ :: d =>
      by_cases h₂ : c₂ = '/'
      swap
      · rw [List.cons_append, rootSlashes_one (by simpa using h₂),
          rootSlashes_one (by simpa using h₂)]
      subst h₂
      match d with
      | [] =>
        have hy : y.head? ≠ some '/' := by simpa using h
        rw [List.cons_append, List.singleton_append, rootSlashes_two hy, rootSlashes_two (by simp)]
      | c₃ :: d =>
        by_cases h₃ : c₃ = '/'
        · subst h₃
          rw [List.cons_append, List.cons_append, List.cons_append, rootSlashes_three,
            rootSlashes_three]
        · rw [List.cons_append, List.cons_append, rootSlashes_two (by simpa using h₃),
            rootSlashes_two (by simpa using h₃)]

theorem isAbsolute_append {d : List Char} (hne : d ≠ []) (y : List Char) :
    isAbsolute (String.ofList (d ++ y)) = isAbsolute (String.ofList d) := by
  obtain ⟨c, d, rfl⟩ := List.exists_cons_of_ne_nil hne
  simp [isAbsolute]

/-- A path that is continued stands for what the continuation leads to. -/
theorem absolute_append (t : FileTree) {d y : List Char} {cs : List String} (hne : d ≠ [])
    (h : y.head? ≠ some '/' ∨ ∃ c ∈ d, c ≠ '/')
    (hc : ∀ loc, FileTree.resolve loc (components (String.ofList (d ++ y))) =
      FileTree.resolve (FileTree.resolve loc (components (String.ofList d))) cs) :
    t.absolute (String.ofList (d ++ y)) =
      ⟨(t.absolute (String.ofList d)).root,
        FileTree.resolve (t.absolute (String.ofList d)).names cs⟩ := by
  simp only [FileTree.absolute, FileTree.start, isAbsolute_append hne, rootSlashes_append hne h, hc]

/-! ## Joined paths -/

theorem join_of_isAbsolute {base name : String} (h : isAbsolute name = true) :
    join base name = name := by
  simp [join, h]

@[simp, grind =] theorem absolute_empty (t : FileTree) : t.absolute "" = ⟨"/", t.cwd⟩ := by
  simp [FileTree.absolute, FileTree.start, isAbsolute, components, splitAll, FileTree.resolve,
    FileTree.step]

theorem exists_ends_slash {base : String} (h : endsWithChar base '/' = true) :
    ∃ x, base.toList = x ++ ['/'] := by
  simp only [endsWithChar, beq_iff_eq] at h
  exact List.getLast?_eq_some_iff.mp h

/-- A relative name is resolved from the directory that it is joined to. -/
theorem absolute_join (t : FileTree) {base name : String} (h : isAbsolute name = false) :
    t.absolute (join base name) =
      ⟨(t.absolute base).root, FileTree.resolve (t.absolute base).names (components name)⟩ := by
  have hname : name.toList.head? ≠ some '/' := by simpa [isAbsolute] using h
  rw [join, if_neg (by simp [h])]
  by_cases hbase : base = ""
  · subst hbase
    rw [if_pos (.inl rfl), String.empty_append, absolute_empty]
    simp [FileTree.absolute, FileTree.start, h]
  have hne : base.toList ≠ [] := by simpa using hbase
  by_cases hends : endsWithChar base '/' = true
  · rw [if_pos (.inr hends)]
    obtain ⟨x, hx⟩ := exists_ends_slash hends
    have hresolve (loc : Location) :
        FileTree.resolve loc (components (String.ofList (base.toList ++ name.toList))) =
          FileTree.resolve (FileTree.resolve loc (components (String.ofList base.toList)))
            (components name) := by
      rw [hx, List.append_assoc, List.singleton_append, components_ofList_append,
        resolve_append, String.ofList_toList, resolve_components_append_slashes loc x (by simp)]
    simpa using absolute_append t hne (.inl hname) hresolve
  · rw [if_neg (by simp [hbase, hends])]
    have hlast : ∃ c ∈ base.toList, c ≠ '/' := by
      refine ⟨base.toList.getLast hne, List.getLast_mem hne, fun heq => hends ?_⟩
      simp [endsWithChar, List.getLast?_eq_some_getLast hne, heq]
    have hresolve (loc : Location) :
        FileTree.resolve loc (components (String.ofList (base.toList ++ '/' :: name.toList))) =
          FileTree.resolve (FileTree.resolve loc (components (String.ofList base.toList)))
            (components name) := by
      rw [components_ofList_append, resolve_append, String.ofList_toList, String.ofList_toList]
    simpa [String.append_assoc] using absolute_append t hne (.inr hlast) hresolve

/-! ## The directory of a file -/

theorem baseChars_of_notMem {s : List Char} (h : '/' ∉ s) : baseChars s = s := by
  simp [baseChars, splitAll_of_notMem h]

theorem baseChars_append {a b : List Char} (h : '/' ∉ b) : baseChars (a ++ '/' :: b) = b := by
  simp [baseChars, splitAll_of_notMem h]

/-- The directory of a path with a slash is not empty; slashes and the base name follow it. -/
theorem exists_dirName {path : String} {a b : List Char} (hp : path.toList = a ++ '/' :: b)
    (hb : '/' ∉ b) :
    ∃ d slashes, dirName path = String.ofList d ∧ a ++ ['/'] = d ++ slashes ∧
      (∀ c ∈ slashes, (c == '/') = true) ∧ d ≠ [] ∧
      ((slashes ++ b).head? ≠ some '/' ∨ ∃ c ∈ d, c ≠ '/') := by
  have hhead : path.toList.take (path.toList.length - (baseChars path.toList).length) =
      a ++ ['/'] := by
    have hassoc : a ++ '/' :: b = (a ++ ['/']) ++ b := by simp
    rw [hp, baseChars_append hb, hassoc, List.length_append, Nat.add_sub_cancel, List.take_left]
  rw [dirName, hhead]
  by_cases hs : (a ++ ['/']).all (· == '/') = true
  · refine ⟨a ++ ['/'], [], by rw [if_pos hs], by simp, by simp, by simp, .inl fun h => hb ?_⟩
    exact List.mem_of_mem_head? (by simpa using h)
  · obtain ⟨slashes, hsplit, hall⟩ := exists_dropRight (· == '/') (a ++ ['/'])
    have hother : ∃ c ∈ dropRight (· == '/') (a ++ ['/']), c ≠ '/' := by
      by_contra hnone
      push Not at hnone
      refine hs (List.all_eq_true.mpr fun c hc => ?_)
      rw [hsplit] at hc
      rcases List.mem_append.mp hc with hc | hc
      · simp [hnone c hc]
      · exact hall c hc
    obtain ⟨c, hc, hne⟩ := hother
    exact ⟨_, slashes, by rw [if_neg hs], hsplit, hall, List.ne_nil_of_mem hc, .inr ⟨c, hc, hne⟩⟩

/-- The base name is the last step to a file. -/
theorem absolute_eq_step (t : FileTree) (path : String) :
    t.absolute path =
      ⟨(t.absolute (dirName path)).root,
        FileTree.step (t.absolute (dirName path)).names (baseName path)⟩ := by
  rcases notMem_or_exists_last '/' path.toList with hp | ⟨a, b, hp, hb⟩
  · have hrel : isAbsolute path = false := by
      simp only [isAbsolute, beq_eq_false_iff_ne]
      exact fun h => hp (List.mem_of_mem_head? h)
    have hdir : dirName path = "" := by simp [dirName, baseChars_of_notMem hp]
    rw [hdir, absolute_empty]
    simp [FileTree.absolute, FileTree.start, hrel, components_of_notMem hp, FileTree.resolve,
      baseName, baseChars_of_notMem hp]
  · obtain ⟨d, slashes, hdir, hsplit, hall, hne, hslash⟩ := exists_dirName hp hb
    have hbase : baseName path = String.ofList b := by rw [baseName, hp, baseChars_append hb]
    have hpath : path = String.ofList (d ++ (slashes ++ b)) := by
      rw [← List.append_assoc, ← hsplit, List.append_assoc, List.singleton_append, ← hp,
        String.ofList_toList]
    have hdirs (loc : Location) : FileTree.resolve loc (components (String.ofList a)) =
        FileTree.resolve loc (components (String.ofList d)) := by
      rw [← resolve_components_append_slashes loc d hall, ← hsplit]
      exact (resolve_components_append_slashes loc a (by simp)).symm
    have hresolve (loc : Location) :
        FileTree.resolve loc (components (String.ofList (d ++ (slashes ++ b)))) =
          FileTree.resolve (FileTree.resolve loc (components (String.ofList d)))
            [String.ofList b] := by
      rw [← List.append_assoc, ← hsplit, List.append_assoc, List.singleton_append,
        components_ofList_append, resolve_append, hdirs,
        components_of_notMem (s := String.ofList b) (by simpa using hb)]
    rw [hdir, hbase, hpath]
    exact absolute_append t hne hslash hresolve

/-! ## Paths without detours -/

/-- Components read so far, nearest first: names, below as many steps up as were needed. From the
root no step up is needed. -/
structure IsNormal (absolute : Bool) (done : List String) : Prop where
  slashless : ∀ c ∈ done, '/' ∉ c.toList
  shape : ∃ names k, done = names ++ List.replicate k ".." ∧ (∀ c ∈ names, IsName c) ∧
    (absolute = true → k = 0)

theorem IsNormal.nil (absolute : Bool) : IsNormal absolute [] where
  slashless := by simp
  shape := ⟨[], 0, by simp⟩

theorem IsNormal.normalStep {absolute : Bool} {done : List String} {c : String}
    (h : IsNormal absolute done) (hc : '/' ∉ c.toList) :
    IsNormal absolute (normalStep absolute done c) := by
  obtain ⟨hslash, names, k, rfl, hnames, hk⟩ := h
  unfold Path.normalStep
  split
  · exact ⟨hslash, names, k, rfl, hnames, hk⟩
  next hstay =>
  split
  · next hup =>
    cases names with
    | nil =>
      cases k with
      | zero => cases absolute with
        | true => exact .nil true
        | false => exact ⟨by simp, [], 1, by simp⟩
      | succ k =>
        refine ⟨?_, [], k + 2, ?_, by simp, fun habs => absurd (hk habs) (by simp)⟩
        · simp [List.replicate_succ]
        · simp [List.replicate_succ]
    | cons name names =>
      have hname : name ≠ ".." := (hnames name (by simp)).2.2
      simp only [List.cons_append, if_neg hname]
      exact ⟨fun c hc => hslash c (by simp_all), names, k, rfl,
        fun c hc => hnames c (by simp [hc]), hk⟩
  · next hup =>
    refine ⟨?_, c :: names, k, rfl, ?_, hk⟩
    · simpa [hc] using hslash
    · have hname : IsName c := by simp_all [IsName]
      simpa [hname] using hnames

/-- Reading one more component leads where following it leads. -/
theorem resolve_normalStep {absolute : Bool} {loc : Location} {done : List String} {c : String}
    (h : IsNormal absolute done) (hloc : absolute = true → loc = []) :
    FileTree.resolve loc (normalStep absolute done c).reverse =
      FileTree.step (FileTree.resolve loc done.reverse) c := by
  have hcons (c : String) (cs : List String) : FileTree.resolve loc (c :: cs).reverse =
      FileTree.step (FileTree.resolve loc cs.reverse) c := by
    simp [FileTree.resolve]
  unfold normalStep
  split
  · next hstay => rw [FileTree.step, if_pos hstay]
  next hstay =>
  split
  · next hup =>
    subst hup
    cases done with
    | nil =>
      cases absolute with
      | true => simp [FileTree.resolve, FileTree.step, hloc rfl]
      | false => simp [FileTree.resolve]
    | cons last rest =>
      simp only
      split
      · next hlast => rw [hcons]
      · next hlast =>
        obtain ⟨-, names, k, hdone, hnames, -⟩ := h
        have hname : IsName last := by
          cases names with
          | nil => cases k <;> simp_all [List.replicate_succ]
          | cons name names => simp_all
        rw [hcons, step_of_isName hname]
        simp [FileTree.step]
  · exact hcons c done

theorem slashless_of_mem_components {path c : String} (h : c ∈ components path) :
    '/' ∉ c.toList := by
  obtain ⟨piece, hpiece, rfl⟩ := List.mem_map.mp h
  simpa using notMem_of_mem_splitAll hpiece

/-- The components that are left of a path. -/
def normalParts (path : String) : List String :=
  (components path).foldl (normalStep (isAbsolute path)) []

theorem isNormal_foldl {absolute : Bool} {done cs : List String} (h : IsNormal absolute done)
    (hcs : ∀ c ∈ cs, '/' ∉ c.toList) :
    IsNormal absolute (cs.foldl (normalStep absolute) done) := by
  induction cs generalizing done with
  | nil => exact h
  | cons c cs ih => exact ih (h.normalStep (hcs c (by simp))) fun d hd => hcs d (by simp [hd])

theorem resolve_foldl_normalStep {absolute : Bool} {loc : Location} {done cs : List String}
    (h : IsNormal absolute done) (hloc : absolute = true → loc = [])
    (hcs : ∀ c ∈ cs, '/' ∉ c.toList) :
    FileTree.resolve loc (cs.foldl (normalStep absolute) done).reverse =
      FileTree.resolve (FileTree.resolve loc done.reverse) cs := by
  induction cs generalizing done with
  | nil => simp [FileTree.resolve]
  | cons c cs ih =>
    have hc : '/' ∉ c.toList := hcs c (by simp)
    rw [List.foldl_cons, ih (h.normalStep hc) fun d hd => hcs d (by simp [hd]),
      resolve_normalStep h hloc]
    rfl

theorem components_intercalate {cs : List String} (hne : cs ≠ [])
    (hcs : ∀ c ∈ cs, '/' ∉ c.toList) : components (String.intercalate "/" cs) = cs := by
  induction cs with
  | nil => exact absurd rfl hne
  | cons c cs ih =>
    have hc : components c = [c] := components_of_notMem (hcs c (by simp))
    cases cs with
    | nil => simpa using hc
    | cons d cs =>
      rw [String.intercalate_cons_cons, components_append_slash, hc,
        ih (by simp) fun e he => hcs e (by simp [he])]
      rfl

/-- Parts without slashes, put together, start with no slash. -/
theorem head?_intercalate {cs : List String} (hcs : ∀ c ∈ cs, c ≠ "" ∧ '/' ∉ c.toList) :
    (String.intercalate "/" cs).toList.head? ≠ some '/' := by
  cases cs with
  | nil => simp
  | cons c cs =>
    obtain ⟨hne, hslash⟩ := hcs c (by simp)
    have hhead : (String.intercalate "/" (c :: cs)).toList.head? = c.toList.head? := by
      cases cs with
      | nil => simp
      | cons d cs =>
        obtain ⟨e, r, hr⟩ := List.exists_cons_of_ne_nil (mt String.toList_eq_nil_iff.mp hne)
        simp [String.intercalate_cons_cons, hr]
    rw [hhead]
    exact fun h => hslash (List.mem_of_mem_head? h)

theorem IsNormal.ne_empty {absolute : Bool} {done : List String} (h : IsNormal absolute done) :
    ∀ c ∈ done, c ≠ "" := by
  obtain ⟨-, names, k, rfl, hnames, -⟩ := h
  intro c hc
  rcases List.mem_append.mp hc with hc | hc
  · exact (hnames c hc).1
  · simp [List.eq_of_mem_replicate hc]

theorem isNormal_normalParts (path : String) : IsNormal (isAbsolute path) (normalParts path) :=
  isNormal_foldl (.nil _) fun _ => slashless_of_mem_components

theorem resolve_normalParts (t : FileTree) (path : String) :
    FileTree.resolve (t.start path) (normalParts path).reverse = (t.absolute path).names := by
  refine resolve_foldl_normalStep (.nil _) (fun h => ?_) fun _ => slashless_of_mem_components
  simp [FileTree.start, h]

theorem rootSlashes_of_not_isAbsolute {path : String} (h : isAbsolute path = false) :
    rootSlashes path = "" := by
  simp only [isAbsolute, beq_eq_false_iff_ne] at h
  unfold rootSlashes
  split <;> simp_all

theorem isAbsolute_eq (path : String) : isAbsolute path = decide (rootSlashes path ≠ "") := by
  cases h : isAbsolute path with
  | false => simp [rootSlashes_of_not_isAbsolute h]
  | true => rcases rootSlashes_of_isAbsolute h with h | h <;> simp [h]

/-- The slashes at the start of a path add nothing but empty components. -/
theorem exists_components_rootSlashes (path rest : String) :
    ∃ stays, (∀ c ∈ stays, IsStay c) ∧
      components (rootSlashes path ++ rest) = stays ++ components rest := by
  have hone (rest : String) : components ("/" ++ rest) = "" :: components rest := by
    simp [components, splitAll]
  cases habs : isAbsolute path with
  | false => exact ⟨[], by simp, by simp [rootSlashes_of_not_isAbsolute habs]⟩
  | true =>
    rcases rootSlashes_of_isAbsolute habs with h | h
    · exact ⟨[""], by simp [IsStay], by rw [h, hone]; rfl⟩
    · refine ⟨["", ""], by simp [IsStay], ?_⟩
      rw [h, show "//" = "/" ++ "/" from rfl, String.append_assoc, hone, hone]
      rfl

/-- What follows the slashes at the start of a path without detours. -/
def normalRest (path : String) : String := String.intercalate "/" (normalParts path).reverse

theorem normalize_eq (path : String) :
    normalize path =
      if rootSlashes path ++ normalRest path = "" then "."
      else rootSlashes path ++ normalRest path :=
  rfl

theorem normalize_ne_empty (path : String) : normalize path ≠ "" := by
  rw [normalize_eq]
  split <;> simp_all

theorem slashless_of_mem_normalParts {path c : String} (h : c ∈ (normalParts path).reverse) :
    c ≠ "" ∧ '/' ∉ c.toList :=
  have hnormal := isNormal_normalParts path
  ⟨hnormal.ne_empty c (by simpa using h), hnormal.slashless c (by simpa using h)⟩

theorem normalParts_eq_nil {path : String} (h : normalRest path = "") : normalParts path = [] := by
  by_contra hne
  have hparts : components (normalRest path) = (normalParts path).reverse :=
    components_intercalate (by simpa using hne) fun c hc => (slashless_of_mem_normalParts hc).2
  have hempty : "" ∈ (normalParts path).reverse := by simp [← hparts, h, components, splitAll]
  exact (slashless_of_mem_normalParts hempty).1 rfl

/-- The components of a path without detours, after some that lead nowhere else. -/
theorem exists_components_normalize (path : String) :
    ∃ stays, (∀ c ∈ stays, IsStay c) ∧
      components (normalize path) = stays ++ (normalParts path).reverse := by
  rw [normalize_eq]
  split
  · next hempty =>
    have hrest : normalRest path = "" := by simp_all
    refine ⟨["."], by simp [IsStay], ?_⟩
    simp [normalParts_eq_nil hrest, components, splitAll]
  · obtain ⟨stays, hstays, hcs⟩ := exists_components_rootSlashes path (normalRest path)
    by_cases hnil : normalParts path = []
    · refine ⟨stays ++ [""], ?_, ?_⟩
      · simpa [or_imp, forall_and, IsStay] using hstays
      · rw [hcs, normalRest, hnil]
        simp [components, splitAll]
    · refine ⟨stays, hstays, ?_⟩
      rw [hcs, normalRest, components_intercalate (by simpa using hnil)]
      exact fun c hc => (slashless_of_mem_normalParts hc).2

theorem resolve_components_normalize (loc : Location) (path : String) :
    FileTree.resolve loc (components (normalize path)) =
      FileTree.resolve loc (normalParts path).reverse := by
  obtain ⟨stays, hstays, hcs⟩ := exists_components_normalize path
  rw [hcs, resolve_append, resolve_of_isStay hstays]

@[simp, grind =] theorem rootSlashes_normalize (path : String) :
    rootSlashes (normalize path) = rootSlashes path := by
  have hhead : (normalRest path).toList.head? ≠ some '/' :=
    head?_intercalate fun c hc => slashless_of_mem_normalParts hc
  rw [normalize_eq]
  cases habs : isAbsolute path with
  | false =>
    rw [rootSlashes_of_not_isAbsolute habs, String.empty_append]
    refine rootSlashes_of_not_isAbsolute ?_
    split
    · rfl
    · simpa [isAbsolute] using hhead
  | true =>
    rcases rootSlashes_of_isAbsolute habs with h | h
    · rw [h, if_neg (by simp)]
      simpa using rootSlashes_one hhead
    · have hlist : "//" ++ normalRest path =
          String.ofList ('/' :: '/' :: (normalRest path).toList) := by
        rw [← String.toList_inj]
        simp
      rw [h, if_neg (by simp), hlist, rootSlashes_two hhead]

/-- Without its detours a path stands for the same absolute path. -/
@[simp, grind =] theorem absolute_normalize (t : FileTree) (path : String) :
    t.absolute (normalize path) = t.absolute path := by
  have hroot := rootSlashes_normalize path
  have habs : isAbsolute (normalize path) = isAbsolute path := by simp only [isAbsolute_eq, hroot]
  have hnames := resolve_normalParts t path
  rw [← resolve_components_normalize] at hnames
  simp_all [FileTree.absolute, FileTree.start]

theorem baseName_eq (path : String) : baseName path = (components path).getLast?.getD "" := by
  rw [baseName, baseChars, components, List.getLast?_map]
  cases (splitAll '/' path.toList).getLast? <;> simp

/-- The last of the components that are left is the base name. -/
theorem baseName_normalize {path name : String} {rest : List String}
    (h : normalParts path = name :: rest) : baseName (normalize path) = name := by
  obtain ⟨stays, -, hcs⟩ := exists_components_normalize path
  rw [baseName_eq, hcs, h]
  simp

/-- Steps up from the working directory lead to directories above it. -/
theorem resolve_up_above {loc cwd : Location} (h : loc <+: cwd) (k : Nat) :
    FileTree.resolve loc (List.replicate k "..") <+: cwd := by
  induction k generalizing loc with
  | zero => exact h
  | succ k ih =>
    have hup : FileTree.step loc ".." = loc.dropLast := by simp [FileTree.step]
    rw [List.replicate_succ, FileTree.resolve, List.foldl_cons, hup]
    exact ih ((List.dropLast_prefix loc).trans h)

/-- A path without detours that can be read ends in a name. -/
theorem isName_baseName_of_read {t : FileTree} {path text : String}
    (h : t.read (normalize path) = .ok text) : IsName (baseName (normalize path)) := by
  obtain ⟨-, names, k, hparts, hnames, -⟩ := isNormal_normalParts path
  cases names with
  | cons name names =>
    rw [baseName_normalize hparts]
    exact hnames name (by simp)
  | nil =>
    -- Only steps up are left: the path leads to a directory above the place where it starts.
    have hup : (t.absolute path).names <+: t.cwd := by
      rw [← resolve_normalParts, hparts, List.nil_append, List.reverse_replicate]
      refine resolve_up_above ?_ k
      unfold FileTree.start
      split <;> simp
    obtain ⟨content, hn, -⟩ := FileTree.node?_of_read h
    rw [absolute_normalize, FileTree.node?, if_pos (by simpa using hup)] at hn
    simp at hn

/-- A name next to a file depends on the file's absolute path only. -/
theorem absolute_sibling {t : FileTree} {path path' : String}
    (h : t.absolute path = t.absolute path') (hp : IsName (baseName path))
    (hp' : IsName (baseName path')) (name : String) :
    t.absolute (join (dirName path) name) = t.absolute (join (dirName path') name) := by
  cases hname : isAbsolute name with
  | true => rw [join_of_isAbsolute hname, join_of_isAbsolute hname]
  | false =>
    have hdir : t.absolute (dirName path) = t.absolute (dirName path') := by
      rw [absolute_eq_step, absolute_eq_step t path', step_of_isName hp, step_of_isName hp'] at h
      simp only [AbsolutePath.mk.injEq] at h
      have hnames := (List.append_inj' h.2 rfl).1
      cases hd : t.absolute (dirName path)
      cases hd' : t.absolute (dirName path')
      simp_all
    rw [absolute_join t hname, absolute_join t hname, hdir]

end Path

end HeaderMock

import HeaderMock.Expectation
import HeaderMock.Proofs.Text.Split

/-!
# What prototypes show of a declaration

The prototypes of the helpers of a declaration are one text. The scopes of the declaration, the name
of the helpers and the text of their formals can be read back from it, and nothing else is in it; so
two declarations get the same prototypes exactly when they agree in these three.

## Main definitions

* `HelperHeads.formalsText`: the formals of the helper for a single call, as one text.
* `openedNamespaces`, `pairText`: the texts of namespaces and of both heads.
* `IsScopeName`: a name that ends before the brace that opens its namespace.

## Main statements

* `inExpectNamespaces_inj`: namespaces and content can be read back.
* `pairText_inj`: so can name and formals, since the second helper has all of the first.
* `HelperHeads.prototypes_eq_iff`: what prototypes show.
-/

namespace HeaderMock

/-! ## Namespaces -/

/-- The name ends before the brace that opens its namespace. -/
def IsScopeName (name : String) : Prop := '\x7b' ∉ name.toList

instance (name : String) : Decidable (IsScopeName name) := inferInstanceAs (Decidable (_ ∉ _))

/-- The namespaces inside the outermost one are opened, and `body` starts on a line of its own. -/
def openedNamespaces : List String → List Char → List Char
  | [], body => '\n' :: body
  | name :: names, body =>
    ' ' :: "namespace ".toList ++
      (name.toList ++ ['$', ' '] ++ '\x7b' :: openedNamespaces names body)

/-- The end of a text inside namespaces. -/
def closedNamespaces (names : List String) : List Char :=
  (String.intercalate " " ((expectNamespaces names).map fun _ => "\x7d") ++ "\n").toList

theorem toList_intercalate_cons (sep a : String) (l : List String) :
    (String.intercalate sep (a :: l)).toList =
      a.toList ++ l.flatMap fun b => sep.toList ++ b.toList := by
  induction l generalizing a with
  | nil => simp
  | cons b l ih => simp [String.intercalate_cons_cons, ih]

theorem toList_inExpectNamespaces (content : String) (names : List String) :
    (inExpectNamespaces content names).toList =
      "namespace expect \x7b".toList ++
        openedNamespaces names (content.toList ++ closedNamespaces names) := by
  have opened (body : List Char) :
      (names.flatMap fun name =>
        ' ' :: "namespace ".toList ++ (name.toList ++ ['$', ' ', '\x7b'])) ++ '\n' :: body =
          openedNamespaces names body := by
    induction names with
    | nil => rfl
    | cons name names ih =>
      rw [openedNamespaces, ← ih]
      simp only [List.flatMap_cons, List.append_assoc, List.cons_append, List.nil_append]
  have start : "namespace expect \x7b".toList =
      "namespace ".toList ++ ("expect".toList ++ [' ', '\x7b']) := rfl
  have signs : (" ".toList = [' ']) ∧ ("$".toList = ['$']) ∧ (" \x7b".toList = [' ', '\x7b']) ∧
      ("\n".toList = ['\n']) := ⟨rfl, rfl, rfl, rfl⟩
  rw [inExpectNamespaces, ← opened, closedNamespaces]
  simp only [expectNamespaces, List.map_cons, List.map_map, String.toList_append,
    toList_intercalate_cons, List.flatMap_map, Function.comp_def, start, signs, List.append_assoc,
    List.cons_append, List.nil_append]

/-- Namespaces and what is inside them can be read back: a line end comes after the last brace and a
blank before the next name, and names end at their brace. -/
theorem openedNamespaces_inj {names names' : List String} {body body' : List Char}
    (hn : ∀ name ∈ names, IsScopeName name) (hn' : ∀ name ∈ names', IsScopeName name)
    (h : openedNamespaces names body = openedNamespaces names' body') :
    names = names' ∧ body = body' := by
  induction names generalizing names' with
  | nil =>
    cases names' with
    | nil => exact ⟨rfl, List.tail_eq_of_cons_eq h⟩
    | cons name' names' => exact absurd (List.head_eq_of_cons_eq h) (by decide)
  | cons name names ih =>
    cases names' with
    | nil => exact absurd (List.head_eq_of_cons_eq h) (by decide)
    | cons name' names' =>
      simp only [List.forall_mem_cons] at hn hn'
      have hcut := congrArg (Text.cut '\x7b') (List.append_cancel_left h)
      rw [Text.cut_append, Text.cut_append] at hcut
      · simp only [Prod.mk.injEq, List.append_cancel_right_eq, Option.some.injEq,
          String.toList_inj] at hcut
        obtain ⟨rfl, hrest⟩ := hcut
        obtain ⟨rfl, hbody⟩ := ih hn.2 hn'.2 hrest
        exact ⟨rfl, hbody⟩
      · simpa [IsScopeName] using hn'.1
      · simpa [IsScopeName] using hn.1

theorem inExpectNamespaces_inj {content content' : String} {names names' : List String}
    (hn : ∀ name ∈ names, IsScopeName name) (hn' : ∀ name ∈ names', IsScopeName name)
    (h : inExpectNamespaces content names = inExpectNamespaces content' names') :
    names = names' ∧ content = content' := by
  have hl := congrArg String.toList h
  rw [toList_inExpectNamespaces, toList_inExpectNamespaces] at hl
  obtain ⟨rfl, hbody⟩ := openedNamespaces_inj hn hn' (List.append_cancel_left hl)
  exact ⟨rfl, String.toList_inj.mp (List.append_cancel_right hbody)⟩

/-! ## Heads of a pair of helpers -/

section Brackets

variable {w n n' a a' q : List Char} {c : Char}

/-- Where `w` stands behind two brackets of one text alike, nothing is between the brackets. -/
private theorem eq_nil_of_shift (hw : w.getLast? = some c) (hc : c ≠ '(')
    (hn : n' ++ ['('] = n ++ '(' :: q)
    (h : n ++ '(' :: (w ++ (q ++ a)) = n' ++ '(' :: (w ++ a)) : q = [] := by
  refine Decidable.byContradiction fun hq => ?_
  have hlast : q.getLast? = some '(' := by
    have := congrArg List.getLast? hn
    simpa [List.getLast?_append, List.getLast?_cons, List.getLast?_eq_some_getLast hq]
      using this.symm
  have hswap : w ++ q = q ++ w := by
    have hn'' : n' ++ '(' :: (w ++ a) = n ++ '(' :: (q ++ (w ++ a)) := by
      simpa using congrArg (· ++ (w ++ a)) hn
    rw [hn''] at h
    simpa [← List.append_assoc] using h
  have := congrArg List.getLast? hswap
  simp only [List.getLast?_append, hlast, hw, Option.some_or, Option.some.injEq] at this
  exact hc this.symm

/-- A text that is cut at a bracket, once as it stands and once with `w` behind the bracket, is cut
in one way only. -/
theorem bracket_inj (hw : w.getLast? = some c) (hc : c ≠ '(')
    (h : n ++ '(' :: a = n' ++ '(' :: a') (hw' : n ++ '(' :: (w ++ a) = n' ++ '(' :: (w ++ a')) :
    n = n' ∧ a = a' := by
  have h' : (n ++ ['(']) ++ a = (n' ++ ['(']) ++ a' := by simpa using h
  rcases List.append_eq_append_iff.mp h' with ⟨q, hn, rfl⟩ | ⟨q, hn, rfl⟩
  · have hq := eq_nil_of_shift hw hc (by simpa using hn) hw'
    subst hq
    exact ⟨by simpa using hn.symm, rfl⟩
  · have hq := eq_nil_of_shift hw hc (by simpa using hn) hw'.symm
    subst hq
    exact ⟨by simpa using hn, rfl⟩

end Brackets

/-- The first formal of the helper for a number of calls. -/
def numCallsText : List Char := "unsigned int __numCalls__".toList

/-- The formals of the helper for a number of calls, given those of the helper for a single call. -/
def manyText (a : List Char) : List Char :=
  if a = [] then numCallsText else numCallsText ++ [',', ' '] ++ a

/-- The heads of both helpers from the name on. -/
def pairText (n a : List Char) : List Char :=
  (n ++ '(' :: a) ++ ')' :: ';' ::
    ("\nMockExpectedCall& ".toList ++ ((n ++ '(' :: manyText a) ++ ");\n".toList))

section Pairs

variable {n n' a a' : List Char}

theorem length_pairText : (pairText n a).length + 2 =
    2 * (n ++ '(' :: a).length + (if a = [] then 0 else 2) + (pairText [] []).length := by
  by_cases h : a = []
  · simp only [pairText, manyText, h, if_true, List.length_append, List.length_cons,
      List.length_nil]
    omega
  · simp only [pairText, manyText, h, if_true, if_false, List.length_append, List.length_cons,
      List.length_nil]
    omega

/-- The first head does not end one sign earlier or later. -/
private theorem length_ne_succ {x x' r r' : List Char}
    (h : x ++ ')' :: ';' :: r = x' ++ ')' :: ';' :: r') : x.length ≠ x'.length + 1 := by
  intro hlen
  have := congrArg (·[x.length]?) h
  simp [hlen] at this

/-- Name and formals can be read back: the length of the whole tells where the first head ends, and
the formals start where the second head differs from the first. -/
theorem pairText_inj (h : pairText n a = pairText n' a') : n = n' ∧ a = a' := by
  have hlen : (pairText n a).length + 2 = (pairText n' a').length + 2 := by rw [h]
  rw [length_pairText, length_pairText] at hlen
  have hne := length_ne_succ h
  have hne' := length_ne_succ h.symm
  -- The whole is about twice the first head, so the heads differ by one sign at most.
  have hends : (n ++ '(' :: a).length = (n' ++ '(' :: a').length := by
    split at hlen <;> split at hlen <;> omega
  obtain ⟨hfirst, hrest⟩ := List.append_inj h hends
  have hsecond : n ++ '(' :: manyText a = n' ++ '(' :: manyText a' := by
    simpa only [List.cons.injEq, true_and, List.append_cancel_left_eq,
      List.append_cancel_right_eq] using hrest
  by_cases ha : a = []
  · have ha' : a' = [] := by
      refine Decidable.byContradiction fun ha' => ?_
      rw [if_pos ha, if_neg ha'] at hlen
      omega
    subst ha ha'
    exact ⟨by simpa using hfirst, rfl⟩
  · have ha' : a' ≠ [] := by
      intro ha'
      rw [if_neg ha, if_pos ha'] at hlen
      omega
    rw [manyText, if_neg ha, manyText, if_neg ha'] at hsecond
    have hlast : (numCallsText ++ [',', ' ']).getLast? = some ' ' := by simp
    exact bracket_inj hlast (by decide) hfirst hsecond

end Pairs

/-! ## Prototypes -/

namespace HelperHeads

/-- The formals of the helper for a single call. -/
def formalsText (h : HelperHeads) : String :=
  Layout.commaSeparated ((h.formals true).map Formal.render)

variable {h h' : HelperHeads}

theorem formalsText_eq_empty_iff (h : HelperHeads) : h.formalsText = "" ↔ h.formals true = [] := by
  unfold formalsText Layout.commaSeparated
  cases h.formals true with
  | nil => simp
  | cons f fs =>
    rw [← String.toList_inj, List.map_cons, toList_intercalate_cons]
    simp [Formal.render]

/-- The helper for a number of calls has all formals of the helper for a single call. -/
theorem toList_formalsMany (h : HelperHeads) :
    (Layout.commaSeparated ((h.formalsMany true).map Formal.render)).toList =
      manyText h.formalsText.toList := by
  have first : Formal.render { type := "unsigned int", name := Helper.numCalls } =
      String.ofList numCallsText := by decide
  rw [formalsMany, List.map_cons, first]
  by_cases hf : h.formals true = []
  · have hempty : h.formalsText = "" := h.formalsText_eq_empty_iff.mpr hf
    simp [Layout.commaSeparated, hf, hempty, manyText]
  · have hne : h.formalsText.toList ≠ [] := by
      simpa [formalsText_eq_empty_iff] using hf
    obtain ⟨f, fs, hfs⟩ := List.exists_cons_of_ne_nil hf
    rw [manyText, if_neg hne]
    simp [formalsText, Layout.commaSeparated, hfs, String.intercalate_cons_cons]

/-- The declarations of both helpers. -/
theorem toList_heads (h : HelperHeads) :
    (h.signatureText (h.formals true) ++ ";\n" ++ h.signatureText (h.formalsMany true) ++
      ";\n").toList =
      "MockExpectedCall& ".toList ++ pairText h.name.toList h.formalsText.toList := by
  have start : (Helper.callType ++ " ").toList = "MockExpectedCall& ".toList := rfl
  have next : "\nMockExpectedCall& ".toList = '\n' :: "MockExpectedCall& ".toList := rfl
  have signs : "(".toList = ['('] ∧ ")".toList = [')'] ∧ ";\n".toList = [';', '\n'] ∧
      ");\n".toList = [')', ';', '\n'] := ⟨rfl, rfl, rfl, rfl⟩
  rw [pairText, ← toList_formalsMany, formalsText, next]
  simp only [signatureText, String.toList_append, ← start, signs, List.append_assoc,
    List.cons_append, List.nil_append]

/-- Prototypes show the scopes of a declaration, the name of its helpers and their formals, and
nothing else. -/
theorem prototypes_eq_iff (hn : ∀ name ∈ h.namespaces, IsScopeName name)
    (hn' : ∀ name ∈ h'.namespaces, IsScopeName name) :
    h.prototypes = h'.prototypes ↔
      h.namespaces = h'.namespaces ∧ h.name = h'.name ∧ h.formalsText = h'.formalsText := by
  have heads : h.signatureText (h.formals true) ++ ";\n" ++ h.signatureText (h.formalsMany true) ++
      ";\n" = h'.signatureText (h'.formals true) ++ ";\n" ++
        h'.signatureText (h'.formalsMany true) ++ ";\n" ↔
      h.name = h'.name ∧ h.formalsText = h'.formalsText := by
    rw [← String.toList_inj, toList_heads, toList_heads, List.append_cancel_left_eq]
    constructor
    · intro heq
      obtain ⟨hname, hformals⟩ := pairText_inj heq
      exact ⟨String.toList_inj.mp hname, String.toList_inj.mp hformals⟩
    · rintro ⟨hname, hformals⟩
      rw [hname, hformals]
  constructor
  · intro heq
    obtain ⟨hnamespaces, hcontent⟩ := inExpectNamespaces_inj hn hn' heq
    exact ⟨hnamespaces, heads.mp hcontent⟩
  · rintro ⟨hnamespaces, hrest⟩
    rw [prototypes, prototypes, hnamespaces, heads.mpr hrest]

end HelperHeads

end HeaderMock

import HeaderMock.Proofs.Text.Split

/-!
# Brackets

Texts whose round, square and curly brackets are properly nested. Such a text can be put anywhere
into another one, or be taken out of it, without a change to the nesting of the rest.

## Main definitions

* `Nested`: the grammar of nested brackets.
* `awaited`: the brackets that a text leaves to be closed, as a scanner finds them.
* `Balanced`: a nested text; this is decidable.

## Main statements

* `nested_iff_awaited`: the scanner decides the grammar.
* `nested_insert_iff`: a nested text may come and go.
* `nested_congr`: only the brackets of a text matter.
* `filter_trimLeft`, `filter_trimRight`: dropping blanks keeps the brackets.
-/

namespace HeaderMock.Text

/-! ## The grammar -/

/-- The bracket that closes an opening bracket. -/
def closing? : Char → Option Char
  | '(' => some ')'
  | '[' => some ']'
  | '\x7b' => some '\x7d'
  | _ => none

def isClosing (c : Char) : Bool := c == ')' || c == ']' || c == '\x7d'

def isBracket (c : Char) : Bool := (closing? c).isSome || isClosing c

/-- Every bracket has its partner, and pairs do not overlap. -/
inductive Nested : List Char → Prop where
  | nil : Nested []
  | other {c : Char} {s : List Char} : isBracket c = false → Nested s → Nested (c :: s)
  | pair {o c : Char} {s s' : List Char} :
    closing? o = some c → Nested s → Nested s' → Nested (o :: s ++ c :: s')

theorem isClosing_of_closing? {o c : Char} (h : closing? o = some c) :
    isClosing c = true ∧ closing? c = none := by
  unfold closing? at h
  split at h <;> cases h <;> decide

theorem Nested.append {s s' : List Char} (h : Nested s) (h' : Nested s') : Nested (s ++ s') := by
  induction h with
  | nil => exact h'
  | other hc _ ih => exact .other hc ih
  | pair hclosing h₁ _ _ ih₂ => simpa using Nested.pair hclosing h₁ ih₂

/-! ## The scanner -/

/-- The brackets to be closed after one more character, the next one first. -/
def awaitedStep (stack : List Char) (c : Char) : Option (List Char) :=
  match closing? c with
  | some close => some (close :: stack)
  | none =>
    if isClosing c then
      match stack with
      | [] => none
      | close :: rest => if c = close then some rest else none
    else some stack

/-- The brackets to be closed after a text, if none of it closes a wrong one. -/
def awaited (stack s : List Char) : Option (List Char) := s.foldlM awaitedStep stack

@[simp, grind =] theorem awaited_cons (stack : List Char) (c : Char) (s : List Char) :
    awaited stack (c :: s) = (awaitedStep stack c).bind (awaited · s) := rfl

@[simp, grind =] theorem awaited_append (stack s s' : List Char) :
    awaited stack (s ++ s') = (awaited stack s).bind (awaited · s') :=
  List.foldlM_append

theorem awaitedStep_of_not_isBracket {c : Char} (h : isBracket c = false) (stack : List Char) :
    awaitedStep stack c = some stack := by
  simp only [isBracket, Bool.or_eq_false_iff, Option.isSome_eq_false_iff,
    Option.isNone_iff_eq_none] at h
  simp [awaitedStep, h.1, h.2]

/-- A nested text closes what it opens and nothing else. -/
theorem Nested.awaited_eq {s : List Char} (h : Nested s) (stack : List Char) :
    awaited stack s = some stack := by
  induction h generalizing stack with
  | nil => rfl
  | other hc _ ih => simp [awaitedStep_of_not_isBracket hc, ih]
  | @pair o c _ _ hclosing _ _ ih₁ ih₂ =>
    obtain ⟨hc, hnone⟩ := isClosing_of_closing? hclosing
    have hopen : awaitedStep stack o = some (c :: stack) := by simp [awaitedStep, hclosing]
    have hclose : awaitedStep (c :: stack) c = some stack := by simp [awaitedStep, hnone, hc]
    simp [hopen, hclose, ih₁, ih₂]

/-- A text that closes the brackets of a stack one by one, with nested texts between them. -/
def Closes : List Char → List Char → Prop
  | [], s => Nested s
  | close :: stack, s => ∃ front back, s = front ++ close :: back ∧ Nested front ∧ Closes stack back

theorem Closes.append {stack s s' : List Char} (h : Nested s) (h' : Closes stack s') :
    Closes stack (s ++ s') := by
  cases stack with
  | nil => exact h.append h'
  | cons close stack =>
    obtain ⟨front, back, rfl, hfront, hback⟩ := h'
    exact ⟨s ++ front, back, by simp, h.append hfront, hback⟩

/-- The induction is on the text, with the stack as its invariant: what is left of the text closes
what is left on the stack. -/
theorem closes_of_awaited {stack s : List Char} (h : awaited stack s = some []) :
    Closes stack s := by
  induction s generalizing stack with
  | nil =>
    cases h
    exact .nil
  | cons c s ih =>
    rw [awaited_cons, Option.bind_eq_some_iff] at h
    obtain ⟨stack', hstep, hrest⟩ := h
    have hs := ih hrest
    unfold awaitedStep at hstep
    split at hstep
    · next close hclosing =>
      cases hstep
      obtain ⟨front, back, rfl, hfront, hback⟩ := hs
      have hpair : Nested (c :: front ++ [close]) := .pair hclosing hfront .nil
      simpa using Closes.append hpair hback
    next hnone =>
    split at hstep
    · cases stack with
      | nil => cases hstep
      | cons close rest =>
        simp only [Option.ite_none_right_eq_some, Option.some.injEq] at hstep
        obtain ⟨rfl, rfl⟩ := hstep
        exact ⟨[], s, rfl, .nil, hs⟩
    · next hclosing =>
      cases hstep
      have hc : isBracket c = false := by simpa [isBracket, hnone] using hclosing
      exact Closes.append (.other hc .nil) hs

/-- A text is nested if and only if the scanner comes to its end with nothing left to close. -/
theorem nested_iff_awaited {s : List Char} : Nested s ↔ awaited [] s = some [] :=
  ⟨fun h => h.awaited_eq [], closes_of_awaited⟩

instance (s : List Char) : Decidable (Nested s) :=
  decidable_of_iff (awaited [] s = some []) nested_iff_awaited.symm

/-! ## Putting texts together -/

theorem nested_insert_iff {front s back : List Char} (h : Nested s) :
    Nested (front ++ s ++ back) ↔ Nested (front ++ back) := by
  have hs : ∀ stack, awaited stack s = some stack := h.awaited_eq
  simp [nested_iff_awaited, hs]

@[simp, grind =] theorem awaited_filter (stack s : List Char) :
    awaited stack (s.filter isBracket) = awaited stack s := by
  induction s generalizing stack with
  | nil => rfl
  | cons c s ih =>
    cases hc : isBracket c with
    | true => simp [hc, ih]
    | false => simp [hc, awaitedStep_of_not_isBracket hc, ih]

theorem nested_congr {s s' : List Char} (h : s.filter isBracket = s'.filter isBracket) :
    Nested s ↔ Nested s' := by
  rw [nested_iff_awaited, nested_iff_awaited, ← awaited_filter, h, awaited_filter]

/-! ## Dropping other characters -/

/-- The brackets. -/
def bracketChars : List Char := ['(', ')', '[', ']', '\x7b', '\x7d']

theorem mem_bracketChars {c : Char} (h : isBracket c = true) : c ∈ bracketChars := by
  simp only [isBracket, isClosing, Bool.or_eq_true, beq_iff_eq] at h
  rcases h with h | (rfl | rfl) | rfl
  · unfold closing? at h
    split at h
    · decide
    · decide
    · decide
    · cases h
  · decide
  · decide
  · decide

/-- No character of a class without brackets is one. -/
theorem not_isBracket_of {p : Char → Bool} (hp : bracketChars.any p = false) {c : Char}
    (h : p c = true) : isBracket c = false := by
  rw [Bool.eq_false_iff]
  intro hc
  exact List.any_eq_false.mp hp c (mem_bracketChars hc) h

theorem not_isBracket_of_isBlank {c : Char} (h : isBlank c = true) : isBracket c = false :=
  not_isBracket_of (by decide) h

theorem filter_dropWhile {p : Char → Bool} (hp : ∀ c, p c = true → isBracket c = false)
    (s : List Char) : (s.dropWhile p).filter isBracket = s.filter isBracket := by
  induction s with
  | nil => rfl
  | cons c s ih =>
    cases hc : p c with
    | true => simp [hc, ih, hp c hc]
    | false => simp [hc]

@[simp, grind =] theorem filter_trimLeft (s : List Char) :
    (trimLeft s).filter isBracket = s.filter isBracket :=
  filter_dropWhile (fun _ => not_isBracket_of_isBlank) s

@[simp, grind =] theorem filter_trimRight (s : List Char) :
    (trimRight s).filter isBracket = s.filter isBracket :=
  filter_dropRight (fun _ => not_isBracket_of_isBlank) s

/-! ## Strings -/

/-- The brackets of the text are properly nested. -/
def Balanced (s : String) : Prop := Nested s.toList

instance (s : String) : Decidable (Balanced s) := inferInstanceAs (Decidable (Nested _))

/-- The brackets of a text, in their order. -/
def brackets (s : String) : List Char := s.toList.filter isBracket

@[simp, grind =] theorem brackets_append (s s' : String) :
    brackets (s ++ s') = brackets s ++ brackets s' := by
  simp [brackets]

@[simp, grind =] theorem brackets_ofList (s : List Char) :
    brackets (String.ofList s) = s.filter isBracket := by
  simp [brackets]

@[simp, grind =] theorem brackets_join (l : List String) :
    brackets (String.join l) = l.flatMap brackets := by
  induction l with
  | nil => rfl
  | cons s l ih => rw [String.join_cons, brackets_append, ih, List.flatMap_cons]

theorem brackets_intercalate {sep : String} (h : brackets sep = []) (l : List String) :
    brackets (String.intercalate sep l) = l.flatMap brackets := by
  induction l with
  | nil => rfl
  | cons s l ih =>
    cases l with
    | nil => simp
    | cons s' l =>
      rw [String.intercalate_cons_cons, brackets_append, brackets_append, h, ih, List.append_nil]
      rfl

theorem balanced_congr {s s' : String} (h : brackets s = brackets s') :
    Balanced s ↔ Balanced s' :=
  nested_congr h

theorem balanced_iff_nested_brackets {s : String} : Balanced s ↔ Nested (brackets s) :=
  nested_congr (by simp [brackets])

namespace Balanced

variable {s s' x y front mid back : String} {l : List String}

theorem append (h : Balanced s) (h' : Balanced s') : Balanced (s ++ s') := by
  simpa [Balanced] using Nested.append h h'

/-- A text in the place to fill. -/
theorem insert (h : Balanced (front ++ back)) (hx : Balanced x) :
    Balanced (front ++ x ++ back) := by
  simpa [Balanced] using (nested_insert_iff hx).mpr (by simpa [Balanced] using h)

/-- Texts in two places to fill. -/
theorem insert₂ (h : Balanced (front ++ mid ++ back)) (hx : Balanced x) (hy : Balanced y) :
    Balanced (front ++ x ++ mid ++ y ++ back) := by
  have hfirst : Balanced (front ++ x ++ mid ++ back) := by
    rw [String.append_assoc] at h ⊢
    exact insert h hx
  exact insert hfirst hy

theorem nested_flatMap_brackets (h : ∀ s ∈ l, Balanced s) : Nested (l.flatMap brackets) := by
  induction l with
  | nil => exact .nil
  | cons s l ih =>
    have hs : Nested (brackets s) := balanced_iff_nested_brackets.mp (h s (by simp))
    exact hs.append (ih fun s' hs' => h s' (by simp [hs']))

theorem join (h : ∀ s ∈ l, Balanced s) : Balanced (String.join l) := by
  rw [balanced_iff_nested_brackets, brackets_join]
  exact nested_flatMap_brackets h

theorem intercalate {sep : String} (hsep : brackets sep = []) (h : ∀ s ∈ l, Balanced s) :
    Balanced (String.intercalate sep l) := by
  rw [balanced_iff_nested_brackets, brackets_intercalate hsep]
  exact nested_flatMap_brackets h

end Balanced

end HeaderMock.Text

import HeaderMock.CType.Spelling

/-!
# Bare spellings

What the readers of keywords and declarators find at the ends of a spelling. The bare spelling that
they leave does not show whether the type is constant.

## Main definitions

* `Spelling.signs`, `Spelling.qualifiers`: what may stand behind the name of a type.

## Main statements

* `Text.trimLeft_trimRight`: blanks are trimmed from both ends in either order.
* `Spelling.dropKeyword?_eq_some_iff`, `Spelling.dropDeclarator?_eq_some_iff`: one step of each
  reader.
* `Spelling.bare_const`: a `const` in front of a spelling leaves the bare spelling as it is.
-/

namespace HeaderMock

namespace Text

variable {p : Char → Bool}

theorem dropRight_cons (c : Char) (s : List Char) :
    dropRight p (c :: s) = if dropRight p s = [] ∧ p c = true then [] else c :: dropRight p s := by
  rw [dropRight]
  cases dropRight p s <;> simp

theorem dropRight_append (a s : List Char) :
    dropRight p (a ++ s) = if dropRight p s = [] then dropRight p a else a ++ dropRight p s := by
  induction a with
  | nil => simp +contextual [dropRight]
  | cons c a ih =>
    rw [List.cons_append, dropRight_cons, ih]
    by_cases hs : dropRight p s = []
    · simp [hs, dropRight_cons]
    · simp [hs]

/-- Blanks are trimmed from both ends in either order. -/
theorem trimLeft_trimRight (s : List Char) : trimLeft (trimRight s) = trim s := by
  induction s with
  | nil => rfl
  | cons c s ih =>
    cases hc : isBlank c with
    | true =>
      have hleft (r : List Char) : trimLeft (c :: r) = trimLeft r := by
        simp [trimLeft, dropLeft, hc]
      rw [trim, hleft, ← trim, ← ih, trimRight, dropRight_cons]
      by_cases hs : dropRight isBlank s = []
      · simp [hs, hc, trimRight]
      · simp [hs, hleft, trimRight]
    | false =>
      have hleft (r : List Char) : trimLeft (c :: r) = c :: r := by
        simp [trimLeft, dropLeft, hc]
      rw [trim, hleft, trimRight, dropRight_cons]
      simp [hc, hleft]

end Text

namespace Spelling

open Text

theorem dropKeywords_of_some {s rest : List Char} (h : dropKeyword? s = some rest) :
    dropKeywords s = dropKeywords rest := by
  rw [dropKeywords]
  split
  · next rest' hrest => exact congrArg dropKeywords (Option.some.inj (hrest.symm.trans h))
  · next hnone => simp [h] at hnone

theorem dropKeywords_of_none {s : List Char} (h : dropKeyword? s = none) : dropKeywords s = s := by
  rw [dropKeywords]
  split
  · next rest hrest => simp [h] at hrest
  · rfl

theorem dropDeclarators_of_some {s rest : List Char}
    (h : dropDeclarator? (trimLeft s) = some rest) : dropDeclarators s = dropDeclarators rest := by
  rw [dropDeclarators]
  split
  · next rest' hrest => exact congrArg dropDeclarators (Option.some.inj (hrest.symm.trans h))
  · next hnone => simp [h] at hnone

theorem dropDeclarators_of_none {s : List Char} (h : dropDeclarator? (trimLeft s) = none) :
    dropDeclarators s = trimLeft s := by
  rw [dropDeclarators]
  split
  · next rest hrest => simp [h] at hrest
  · rfl

theorem not_isBlank_of_mem_keywords {word : String} (h : word ∈ keywords) :
    ∀ c ∈ word.toList, (!isBlank c) = true := by
  have hall : keywords.all (fun word => word.toList.all (!isBlank ·)) = true := by decide
  exact List.all_eq_true.mp (List.all_eq_true.mp hall word h)

/-- A keyword in front of a text is found, and no blank is left behind it. -/
theorem dropKeyword?_append {word : String} (hword : word ∈ keywords) {blank : Char}
    (hblank : isBlank blank = true) (rest : List Char) :
    dropKeyword? (word.toList ++ blank :: rest) = some (trimLeft rest) := by
  have hink := not_isBlank_of_mem_keywords hword
  have hdrop : (word.toList ++ blank :: rest).dropWhile (!isBlank ·) = blank :: rest := by
    rw [List.dropWhile_append_of_pos hink]
    simp [hblank]
  have htake : (word.toList ++ blank :: rest).takeWhile (!isBlank ·) = word.toList := by
    rw [List.takeWhile_append_of_pos hink]
    simp [hblank]
  have hkeyword : keywords.any (·.toList == word.toList) = true :=
    List.any_eq_true.mpr ⟨word, hword, by simp⟩
  simp only [dropKeyword?, hdrop, htake, hkeyword, if_true]

theorem dropKeyword?_eq_some_iff {s rest : List Char} :
    dropKeyword? s = some rest ↔ ∃ word ∈ keywords, ∃ blank tail, isBlank blank = true ∧
      s = word.toList ++ blank :: tail ∧ rest = trimLeft tail := by
  constructor
  · intro h
    unfold dropKeyword? at h
    split at h
    · cases h
    next blank tail hdrop =>
    split at h
    · next hkeyword =>
      cases h
      obtain ⟨word, hword, htake⟩ := List.any_eq_true.mp hkeyword
      have hblank := List.head?_dropWhile_not (!isBlank ·) s
      refine ⟨word, hword, blank, tail, by simpa [hdrop] using hblank, ?_, rfl⟩
      rw [beq_iff_eq.mp htake, ← hdrop, List.takeWhile_append_dropWhile]
    · cases h
  · rintro ⟨word, hword, blank, tail, hblank, rfl, rfl⟩
    exact dropKeyword?_append hword hblank tail

theorem dropWordEnd?_eq_some_iff {word : String} {s rest : List Char} :
    dropWordEnd? word s = some rest ↔
      s = word.toList.reverse ++ rest ∧ rest.head?.any isWordChar = false := by
  rw [← dropStart?_eq_some_iff, dropWordEnd?]
  split
  · next r hr => grind
  · next hr => simp [hr]

/-- The signs of pointers and references. -/
def signs : List Char := ['*', '&']

/-- The words that may stand behind the name of a type. -/
def qualifiers : List String := ["const", "volatile"]

theorem dropDeclarator?_eq_some_iff {s rest : List Char} :
    dropDeclarator? s = some rest ↔ (∃ c ∈ signs, s = c :: rest) ∨
      ∃ word ∈ qualifiers, s = word.toList.reverse ++ rest ∧
        rest.head?.any isWordChar = false := by
  have hsigns : (∃ c ∈ signs, s = c :: rest) ↔ s = '*' :: rest ∨ s = '&' :: rest := by
    simp [signs]
  have hwords : (∃ word ∈ qualifiers, s = word.toList.reverse ++ rest ∧
        rest.head?.any isWordChar = false) ↔
      dropWordEnd? "const" s = some rest ∨ dropWordEnd? "volatile" s = some rest := by
    simp [qualifiers, dropWordEnd?_eq_some_iff]
  rw [hsigns, hwords]
  unfold dropDeclarator?
  split
  · simp [dropWordEnd?, dropStart?, eq_comm]
  · simp [dropWordEnd?, dropStart?, eq_comm]
  · next hpointer hreference =>
    -- The two words end in different letters, so it does not matter which is tried first.
    have hapart : dropWordEnd? "volatile" s = some rest → dropWordEnd? "const" s = none := by
      intro h
      obtain ⟨rfl, -⟩ := dropWordEnd?_eq_some_iff.mp h
      simp [dropWordEnd?, dropStart?]
    have hnone : ¬(s = '*' :: rest ∨ s = '&' :: rest) := by
      rintro (rfl | rfl)
      · exact hpointer rest rfl
      · exact hreference rest rfl
    rw [Option.or_eq_some_iff]
    grind

/-- A `const` in front of a spelling leaves the bare spelling as it is. -/
@[simp, grind =] theorem bare_const (s : String) : bare ("const " ++ s) = bare s := by
  have hleft : trimLeft ("const " ++ s).toList = "const ".toList ++ s.toList := by
    rw [String.toList_append]
    rfl
  suffices bareChars ("const " ++ s).toList = bareChars s.toList by rw [bare, bare, this]
  rw [bareChars, bareChars, trim, hleft, trimRight, dropRight_append, ← trimLeft_trimRight,
    ← trimRight, ← trimRight]
  by_cases hs : trimRight s.toList = []
  · -- Nothing but `const` is left, which goes as a qualifier behind an empty name.
    have hword : dropKeyword? (trimRight "const ".toList) = none := by decide
    have hempty : dropKeyword? (trimLeft []) = none := by decide
    have hconst : dropDeclarator? (trimLeft (trimRight "const ".toList).reverse) = some [] := by
      decide
    rw [if_pos hs, hs, dropKeywords_of_none hword, dropKeywords_of_none hempty,
      dropDeclarators_of_some hconst]
    rfl
  · rw [if_neg hs]
    exact congrArg (fun r => (dropDeclarators r.reverse).reverse)
      (dropKeywords_of_some (@dropKeyword?_append "const" (by decide) ' ' isBlank_space _))

end Spelling

end HeaderMock

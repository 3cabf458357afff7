import HeaderMock.CType.Basic
import HeaderMock.CType.Spelling
import HeaderMock.Proofs.CType.Bare
import HeaderMock.Proofs.Sequencing
import HeaderMock.Proofs.Text.Brackets

/-!
# Brackets in the spellings of types

The rules on the text of a type drop blanks, signs and keywords only, so that they keep all of its
brackets, or they put a name between brackets that belong together.

## Main definitions

* `CType.IsBalanced`: a type and all that is reached from it have balanced spellings.

## Main statements

* `Spelling.brackets_bare`, `Spelling.brackets_withoutConst`: no bracket is dropped.
* `Spelling.balanced_declare`: a declared variable is balanced.
-/

namespace HeaderMock

open Text

namespace Spelling

/-! ## Bare names -/

theorem filter_of_dropKeyword? {s rest : List Char} (h : dropKeyword? s = some rest) :
    rest.filter isBracket = s.filter isBracket := by
  obtain ⟨word, hword, blank, tail, hblank, rfl, rfl⟩ := dropKeyword?_eq_some_iff.mp h
  have hwords : ∀ word ∈ keywords, word.toList.filter isBracket = [] := by decide
  rw [filter_trimLeft, List.filter_append, hwords word hword, List.nil_append]
  simp [not_isBracket_of_isBlank hblank]

@[simp, grind =] theorem filter_dropKeywords (s : List Char) :
    (dropKeywords s).filter isBracket = s.filter isBracket := by
  fun_induction dropKeywords s with
  | case1 s rest h _ ih => rw [ih, filter_of_dropKeyword? h]
  | case2 => rfl

theorem filter_of_dropDeclarator? {s rest : List Char} (h : dropDeclarator? s = some rest) :
    rest.filter isBracket = s.filter isBracket := by
  rcases dropDeclarator?_eq_some_iff.mp h with ⟨c, hc, rfl⟩ | ⟨word, hword, rfl, -⟩
  · have hsigns : signs.any isBracket = false := by decide
    simp [List.any_eq_false.mp hsigns c hc]
  · have hwords : ∀ word ∈ qualifiers, word.toList.reverse.filter isBracket = [] := by decide
    rw [List.filter_append, hwords word hword, List.nil_append]

@[simp, grind =] theorem filter_dropDeclarators (s : List Char) :
    (dropDeclarators s).filter isBracket = s.filter isBracket := by
  fun_induction dropDeclarators s with
  | case1 s rest h _ ih => rw [ih, filter_of_dropDeclarator? h, filter_trimLeft]
  | case2 s _ => exact filter_trimLeft s

@[simp, grind =] theorem brackets_bare (s : String) : brackets (bare s) = brackets s := by
  rw [bare, brackets_ofList, bareChars, List.filter_reverse, filter_dropDeclarators,
    List.filter_reverse, List.reverse_reverse, filter_dropKeywords, trim, filter_trimRight,
    filter_trimLeft]
  rfl

/-! ## Other spellings -/

@[simp, grind =] theorem brackets_withoutConst (s : String) :
    brackets (withoutConst s) = brackets s := by
  unfold withoutConst withoutStart
  split
  · next rest hdrop =>
    have hword : brackets "const " = [] := by decide
    rw [dropStart?_toList_eq_some_iff.mp hdrop, brackets_append, hword, List.nil_append]
  · rfl

theorem balanced_constPointerTo {s : String} (h : Balanced s) : Balanced (constPointerTo s) := by
  unfold constPointerTo
  split
  · exact h.append (by decide)
  · exact .insert (by decide) h

/-- The name goes between brackets that belong together, or outside all of them. -/
theorem balanced_declare {s name : String} (h : Balanced s) (hname : Balanced name) :
    Balanced (declare s name) := by
  unfold declare
  split
  · next front back hcut =>
    have hs : s = String.ofList front ++ "(*" ++ (")" ++ String.ofList back) := by
      rw [← String.toList_inj, cutText?_eq_some hcut]
      simp
    have hinsert := Balanced.insert (hs ▸ h) hname
    rwa [← String.append_assoc] at hinsert
  · split
    · next head tail hcut =>
      have hs : brackets s =
          brackets (String.ofList (trimRight head) ++ " " ++ ("[" ++ String.ofList tail)) := by
        have hsplit := (cut_eq_some_iff.mp hcut).1
        have hspace : brackets " " = [] := by decide
        have hopen : brackets "[" = ['['] := by decide
        have hbracket : isBracket '[' = true := by decide
        rw [brackets, hsplit]
        simp [hspace, hopen, hbracket]
      have hinsert := Balanced.insert ((balanced_congr hs).mp h) hname
      rwa [← String.append_assoc] at hinsert
    · exact (h.append (by decide)).append hname

end Spelling

/-! ## Types -/

/-- The spellings of a type and of all types reached from it are balanced. -/
inductive CType.IsBalanced : CType → Prop where
  | intro {t : CType} (spelling : Balanced t.spelling)
    (canonical : ∀ c, t.canonical? = some c → IsBalanced c)
    (pointee : ∀ p, t.pointee? = some p → IsBalanced p)
    (named : ∀ n, t.named? = some n → IsBalanced n)
    (element : ∀ e, t.element? = some e → IsBalanced e) : IsBalanced t

namespace CType

variable {t : CType}

theorem isBalanced_invalid : invalid.IsBalanced :=
  .intro (by decide) nofun nofun nofun nofun

namespace IsBalanced

theorem spelling (h : t.IsBalanced) : Balanced t.spelling := by
  cases h with
  | intro spelling => exact spelling

theorem canonical (h : t.IsBalanced) : t.canonical.IsBalanced := by
  unfold CType.canonical
  cases hc : t.canonical? with
  | none => exact h
  | some c =>
    cases h with
    | intro _ canonical => exact canonical c hc

theorem pointee (h : t.IsBalanced) : t.pointee.IsBalanced := by
  unfold CType.pointee
  cases hp : t.pointee? with
  | none => exact isBalanced_invalid
  | some p =>
    cases h with
    | intro _ _ pointee => exact pointee p hp

theorem element {e : CType} (h : t.IsBalanced) (he : t.element = .ok e) : e.IsBalanced := by
  unfold CType.element at he
  split at he
  · next _ helement =>
    cases he
    cases h with
    | intro _ _ _ _ element => exact element _ helement
  · cases he

theorem desugar (h : t.IsBalanced) : t.desugar.IsBalanced := by
  fun_induction CType.desugar t with
  | case1 _ _ _ _ named _ _ ih =>
    cases h with
    | intro _ _ _ named => exact ih (named _ rfl)
  | case2 => exact isBalanced_invalid
  | case3 => exact h

theorem directTarget? {target : CType} (h : t.IsBalanced)
    (ht : t.directTarget? = .ok (some target)) : target.IsBalanced := by
  unfold CType.directTarget? at ht
  split at ht
  · cases ht
    exact h.pointee
  split at ht
  · obtain ⟨e, he, heq⟩ := map_eq_ok_iff.mp ht
    cases heq
    exact h.element he
  · cases ht

theorem target? {target : CType} (h : t.IsBalanced) (ht : t.target? = .ok (some target)) :
    target.IsBalanced := by
  simp only [CType.target?, bind_eq_ok_iff] at ht
  obtain ⟨direct, hdirect, ht⟩ := ht
  split at ht
  · cases ht
    exact h.desugar.directTarget? hdirect
  · exact h.canonical.directTarget? ht

end IsBalanced

end CType

end HeaderMock

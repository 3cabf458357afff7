import HeaderMock.Text.Blank
import HeaderMock.Text.Split

/-!
# Pieces of texts

What the pieces of a text between separators are, where the first occurrence of a text in another
one is, and what is left of a text without its end.

## Main definitions

* `signed`: a text behind its sign, if there is one.
* `FirstAt`: the place of the first occurrence of a text.

## Main statements

* `cutAt_eq_iff`, `cutText?_eq_some_iff`: texts are cut at the first occurrence.
* `splitAll_append`, `notMem_of_mem_splitAll`: the pieces between all occurrences.
* `exists_dropRight`, `filter_dropRight`: what is dropped from the end.
* `withoutStart_cases`: what is dropped from the start.
-/

namespace HeaderMock.Text

/-- A text is cut at its first separator. -/
@[grind =] theorem cut_eq_some_iff {sep : Char} {s front back : List Char} :
    cut sep s = (front, some back) ↔ s = front ++ sep :: back ∧ sep ∉ front := by
  constructor
  · intro h
    fun_induction cut sep s generalizing front with
    | case1 => simp at h
    | case2 r => simp_all
    | case3 c r hc front' back' hcut ih =>
      simp only [Prod.mk.injEq] at h
      obtain ⟨rfl, rfl⟩ := h
      obtain ⟨rfl, hfront⟩ := ih hcut
      simp [hfront, Ne.symm hc]
  · rintro ⟨rfl, h⟩
    exact cut_append h

theorem notMem_of_cut_eq_none {sep : Char} {s front : List Char} (h : cut sep s = (front, none)) :
    sep ∉ s := by
  intro hmem
  obtain ⟨a, b, rfl, ha⟩ := List.eq_append_cons_of_mem hmem
  rw [cut_append ha] at h
  cases h

/-- A text behind its sign, if there is one. -/
def signed (sign : Char) : Option String → String
  | none => ""
  | some s => String.singleton sign ++ s

/-- A text is cut into what stands before its first separator and what stands behind it. -/
theorem cutAt_eq_iff {sep : Char} {s front : String} {back? : Option String} :
    cutAt sep s = (front, back?) ↔ s = front ++ signed sep back? ∧ sep ∉ front.toList := by
  constructor
  · intro h
    by_cases hsep : sep ∈ s.toList
    · obtain ⟨a, b, hs, ha⟩ := List.eq_append_cons_of_mem hsep
      simp only [cutAt, hs, cut_append ha, Prod.mk.injEq] at h
      obtain ⟨rfl, rfl⟩ := h
      refine ⟨?_, by simpa using ha⟩
      rw [← String.toList_inj, hs]
      simp [signed]
    · simp only [cutAt, cut_of_notMem hsep, Prod.mk.injEq] at h
      obtain ⟨rfl, rfl⟩ := h
      simpa [signed] using hsep
  · rintro ⟨rfl, hfront⟩
    cases back? with
    | none => simp [cutAt, signed, cut_of_notMem hfront]
    | some back => simp [cutAt, signed, cut_append hfront]

/-- A text that is cut at another one has it between the pieces. -/
theorem cutText?_eq_some {sep s front back : List Char} (h : cutText? sep s = some (front, back)) :
    s = front ++ sep ++ back := by
  induction s generalizing front with
  | nil =>
    simp only [cutText?, Option.map_eq_some_iff, Prod.mk.injEq] at h
    obtain ⟨back', hdrop, rfl, rfl⟩ := h
    exact dropStart?_eq_some_iff.mp hdrop
  | cons c s ih =>
    unfold cutText? at h
    split at h
    · next hdrop =>
      cases h
      exact dropStart?_eq_some_iff.mp hdrop
    · simp only [Option.map_eq_some_iff, Prod.mk.injEq] at h
      obtain ⟨⟨front', back'⟩, hcut, rfl, rfl⟩ := h
      simpa using ih hcut

/-- A text that has another one in it is cut, and at no later place. -/
theorem exists_cutText? (sep front back : List Char) :
    ∃ front' back', cutText? sep (front ++ sep ++ back) = some (front', back') ∧
      front'.length ≤ front.length := by
  induction front with
  | nil =>
    refine ⟨[], back, ?_, Nat.le_refl 0⟩
    have hdrop : dropStart? sep (sep ++ back) = some back := dropStart?_eq_some_iff.mpr rfl
    unfold cutText?
    grind
  | cons c front ih =>
    obtain ⟨front', back', hcut, hle⟩ := ih
    simp only [List.cons_append, cutText?]
    split
    · next back'' _ => exact ⟨[], back'', rfl, Nat.zero_le _⟩
    · exact ⟨c :: front', back', by rw [hcut]; rfl, Nat.succ_le_succ hle⟩

/-- The place of the first `mark` of a text. -/
structure FirstAt (mark s front back : List Char) : Prop where
  split : s = front ++ mark ++ back
  first {front' back' : List Char} : s = front' ++ mark ++ back' → front.length ≤ front'.length

@[grind =] theorem cutText?_eq_some_iff {mark s front back : List Char} :
    cutText? mark s = some (front, back) ↔ FirstAt mark s front back := by
  constructor
  · intro h
    refine ⟨cutText?_eq_some h, ?_⟩
    rintro front' back' rfl
    obtain ⟨front'', back'', hcut, hle⟩ := exists_cutText? mark front' back'
    rw [h] at hcut
    cases hcut
    exact hle
  · intro h
    obtain ⟨front', back', hcut, hle⟩ := exists_cutText? mark front back
    rw [← h.split] at hcut
    have hsplit := cutText?_eq_some hcut
    have hlength := h.first hsplit
    have heq : front ++ (mark ++ back) = front' ++ (mark ++ back') := by
      rw [← List.append_assoc, ← List.append_assoc, ← h.split, hsplit]
    obtain ⟨rfl, hback⟩ := List.append_inj heq (by omega)
    rw [List.append_cancel_left hback, hcut]

theorem cutText?_eq_none_iff {mark s : List Char} : cutText? mark s = none ↔ ¬mark <:+: s := by
  constructor
  · rintro h ⟨front, back, rfl⟩
    obtain ⟨front', back', hcut, -⟩ := exists_cutText? mark front back
    rw [h] at hcut
    cases hcut
  · intro h
    refine Option.eq_none_iff_forall_ne_some.mpr ?_
    rintro ⟨front, back⟩ hcut
    exact h ⟨front, back, (cutText?_eq_some hcut).symm⟩

theorem FirstAt.unique {mark s front back front' back' : List Char}
    (h : FirstAt mark s front back) (h' : FirstAt mark s front' back') :
    front' = front ∧ back' = back := by
  have heq := (cutText?_eq_some_iff.mpr h').symm.trans (cutText?_eq_some_iff.mpr h)
  simpa using heq

theorem firstAt_singleton {c : Char} {front back : List Char} (h : c ∉ front) :
    FirstAt [c] (front ++ c :: back) front back := by
  refine ⟨by simp, ?_⟩
  intro front' back' heq
  rw [List.append_assoc, List.singleton_append] at heq
  rcases List.append_eq_append_iff.mp heq with ⟨u, rfl, -⟩ | ⟨u, rfl, hu⟩
  · simp
  · rcases List.cons_eq_append_iff.mp hu with ⟨rfl, -⟩ | ⟨u', rfl, -⟩
    · simp
    · simp at h

theorem splitAll_ne_nil (sep : Char) (s : List Char) : splitAll sep s ≠ [] := by
  fun_induction splitAll sep s <;> simp

/-- A text is cut independently before and after each separator. -/
@[simp, grind =] theorem splitAll_append (sep : Char) (a b : List Char) :
    splitAll sep (a ++ sep :: b) = splitAll sep a ++ splitAll sep b := by
  induction a with
  | nil => simp [splitAll]
  | cons c a ih =>
    by_cases hc : c = sep
    · simp [splitAll, hc, ih]
    · obtain ⟨piece, pieces, hp⟩ := List.exists_cons_of_ne_nil (splitAll_ne_nil sep a)
      simp [splitAll, hc, ih, hp]

theorem splitAll_of_notMem {sep : Char} {s : List Char} (h : sep ∉ s) : splitAll sep s = [s] := by
  induction s with
  | nil => rfl
  | cons c s ih =>
    simp only [List.mem_cons, not_or] at h
    simp [splitAll, Ne.symm h.1, ih h.2]

/-- A text has no separator, or is cut at its last one. -/
theorem notMem_or_exists_last (sep : Char) (s : List Char) :
    sep ∉ s ∨ ∃ a b, s = a ++ sep :: b ∧ sep ∉ b := by
  induction s with
  | nil => simp
  | cons c s ih =>
    rcases ih with h | ⟨a, b, rfl, hb⟩
    · by_cases hc : c = sep
      · exact .inr ⟨[], s, by simp [hc], h⟩
      · exact .inl (by simp [h, Ne.symm hc])
    · exact .inr ⟨c :: a, b, rfl, hb⟩

theorem exists_dropRight (p : Char → Bool) (s : List Char) :
    ∃ tail, s = dropRight p s ++ tail ∧ ∀ c ∈ tail, p c = true := by
  fun_induction dropRight p s with
  | case1 => exact ⟨[], by simp⟩
  | case2 c r hr hc ih =>
    obtain ⟨tail, htail, hall⟩ := ih
    obtain rfl : r = tail := by simpa [hr] using htail
    exact ⟨c :: r, rfl, by simpa [hc] using hall⟩
  | case3 c r hr hc ih =>
    obtain ⟨tail, htail, hall⟩ := ih
    obtain rfl : r = tail := by simpa [hr] using htail
    exact ⟨r, rfl, hall⟩
  | case4 c r d t hr ih =>
    obtain ⟨tail, htail, hall⟩ := ih
    rw [hr] at htail
    exact ⟨tail, by rw [htail]; rfl, hall⟩

/-- Dropping characters outside `q` from the end keeps those in `q`. -/
theorem filter_dropRight {p q : Char → Bool} (hp : ∀ c, p c = true → q c = false)
    (s : List Char) : (dropRight p s).filter q = s.filter q := by
  obtain ⟨tail, hs, htail⟩ := exists_dropRight p s
  have hnone : tail.filter q = [] := by
    simpa using fun c hc => hp c (htail c hc)
  have hfilter := congrArg (List.filter q) hs
  rw [List.filter_append, hnone, List.append_nil] at hfilter
  exact hfilter.symm

/-- No piece holds the separator. -/
theorem notMem_of_mem_splitAll {sep : Char} {s piece : List Char}
    (h : piece ∈ splitAll sep s) : sep ∉ piece := by
  fun_induction splitAll sep s generalizing piece with
  | case1 => simp_all
  | case2 r ih =>
    rcases List.mem_cons.mp h with rfl | h
    · simp
    · exact ih h
  | case3 c r hc _ _ =>
    obtain rfl : piece = [c] := by simpa using h
    simpa [eq_comm] using hc
  | case4 c r hc head tail hr ih =>
    rcases List.mem_cons.mp h with rfl | h
    · have hhead : sep ∉ head := ih (by simp [hr])
      simpa [Ne.symm hc] using hhead
    · exact ih (by simp [hr, h])

theorem dropStart?_toList_eq_some_iff {p s : String} {r : List Char} :
    dropStart? p.toList s.toList = some r ↔ s = p ++ String.ofList r := by
  rw [dropStart?_eq_some_iff, ← String.toList_inj, String.toList_append, String.toList_ofList]

/-- A text has a given start, which is dropped, or stays as it is. -/
theorem withoutStart_cases (s p : String) :
    (∃ rest, s = p ++ rest ∧ startsWith s p = true ∧ withoutStart s p = rest) ∨
      startsWith s p = false ∧ withoutStart s p = s := by
  unfold startsWith withoutStart
  cases hdrop : dropStart? p.toList s.toList with
  | some rest => exact .inl ⟨String.ofList rest, dropStart?_toList_eq_some_iff.mp hdrop, rfl, rfl⟩
  | none => exact .inr ⟨rfl, rfl⟩

theorem startsWith_iff {s p : String} : startsWith s p = true ↔ ∃ rest, s = p ++ rest := by
  rw [startsWith, Option.isSome_iff_exists]
  constructor
  · rintro ⟨rest, hdrop⟩
    exact ⟨String.ofList rest, dropStart?_toList_eq_some_iff.mp hdrop⟩
  · rintro ⟨rest, rfl⟩
    exact ⟨rest.toList, dropStart?_toList_eq_some_iff.mpr (by simp)⟩

/-- What a text starts with does not depend on what follows it. -/
theorem startsWith_append {a b : String} (p : String) (hp : p.toList.length = 1)
    (ha : a ≠ "") : startsWith (a ++ b) p = startsWith a p := by
  obtain ⟨c, hp⟩ := List.length_eq_one_iff.mp hp
  obtain ⟨d, r, hd⟩ : ∃ d r, a.toList = d :: r :=
    List.exists_cons_of_ne_nil (by simpa using ha)
  by_cases hc : c = d <;> simp [startsWith, hp, hd, dropStart?, hc]

/-- Numbers are written in digits. -/
theorem isDigit_of_mem_toString {n : Nat} {c : Char} (h : c ∈ (toString n).toList) :
    c.isDigit = true := by
  rw [show toString n = Nat.repr n from rfl, Nat.toList_repr] at h
  exact Nat.isDigit_of_mem_toDigits (by decide) (by decide) h

end HeaderMock.Text

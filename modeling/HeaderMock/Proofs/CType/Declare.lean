import HeaderMock.CType.Spelling
import HeaderMock.Proofs.Text.Split

/-!
# Declared names

Where the name of a declared variable stands in the text of its type. Blanks apart, the declaration
is the spelling of the type with the name put in at one place. The place is found by the first `(*)`
or the first `[`, wherever these stand, so that it may lie between the angles of a template argument
list.

## Main definitions

* `NestedAngles`: the grammar of nested angles.
* `InArguments`: a place between two angles that belong together.
* `Declares`: a place at which a declaration has its name.
* `MarkedInArguments`: the first `(*)`, or else the first `[`, is part of a template argument.

## Main statements

* `inArguments_iff_count`: the angles in front of a place tell whether it lies in an argument list.
* `Declares.count_eq`: the places at which a declaration may have its name differ by no angle.
* `declares_outside_arguments_iff`: a name is declared outside of all argument lists unless the
  spelling is marked in one.
-/

namespace HeaderMock.Spelling

open Text

/-! ## Template argument lists -/

/-- Every `<` has its `>`, and pairs do not overlap. -/
inductive NestedAngles : List Char → Prop where
  | nil : NestedAngles []
  | other {c : Char} {s : List Char} :
    c ≠ '<' → c ≠ '>' → NestedAngles s → NestedAngles (c :: s)
  | arguments {inner rest : List Char} :
    NestedAngles inner → NestedAngles rest → NestedAngles ('<' :: inner ++ '>' :: rest)

theorem NestedAngles.of_notMem {s : List Char} (hopen : '<' ∉ s) (hclose : '>' ∉ s) :
    NestedAngles s := by
  induction s with
  | nil => exact .nil
  | cons c s ih =>
    simp only [List.mem_cons, not_or] at hopen hclose
    exact .other (Ne.symm hopen.1) (Ne.symm hclose.1) (ih hopen.2 hclose.2)

theorem NestedAngles.append {s s' : List Char} (h : NestedAngles s) (h' : NestedAngles s') :
    NestedAngles (s ++ s') := by
  induction h with
  | nil => exact h'
  | other hopen hclose _ ih => exact .other hopen hclose ih
  | arguments hinner _ _ ih => simpa using NestedAngles.arguments hinner ih

/-- The place between two texts has a template argument list around it. -/
def InArguments (front back : List Char) : Prop :=
  ∃ outer inner inner' outer', front = outer ++ '<' :: inner ∧ back = inner' ++ '>' :: outer' ∧
    NestedAngles (inner ++ inner')

theorem not_inArguments_nil (front : List Char) : ¬InArguments front [] := by
  rintro ⟨outer, inner, inner', outer', -, hback, -⟩
  simp at hback

theorem InArguments.append {front back : List Char} (h : InArguments front back)
    (s : List Char) : InArguments (s ++ front) back := by
  obtain ⟨outer, inner, inner', outer', rfl, rfl, hinner⟩ := h
  exact ⟨s ++ outer, inner, inner', outer', by simp, rfl, hinner⟩

/-- In front of a place, all pairs of angles are complete, or the place lies in one of them. The
induction follows the grammar, with the place anywhere in the text. -/
theorem NestedAngles.count_cases {s : List Char} (h : NestedAngles s) {front back : List Char}
    (hs : s = front ++ back) :
    front.count '>' = front.count '<' ∨
      front.count '>' < front.count '<' ∧ InArguments front back := by
  induction h generalizing front back with
  | nil =>
    obtain ⟨rfl, rfl⟩ := List.append_eq_nil_iff.mp hs.symm
    exact .inl rfl
  | @other c s hopen hclose _ ih =>
    rcases List.cons_eq_append_iff.mp hs with ⟨rfl, -⟩ | ⟨front', rfl, hs'⟩
    · exact .inl rfl
    · rcases ih hs' with heq | ⟨hlt, hin⟩
      · exact .inl (by simpa [hopen, hclose] using heq)
      · exact .inr ⟨by simpa [hopen, hclose] using hlt, hin.append [c]⟩
  | @arguments inner rest hinner hrest ihinner ihrest =>
    have htotal : inner.count '>' = inner.count '<' := by
      rcases ihinner (List.append_nil inner).symm with heq | ⟨-, hin⟩
      · exact heq
      · exact absurd hin (not_inArguments_nil inner)
    rcases List.cons_eq_append_iff.mp hs with ⟨rfl, -⟩ | ⟨front', rfl, hs'⟩
    · exact .inl rfl
    rcases List.append_eq_append_iff.mp hs' with ⟨a, rfl, ha⟩ | ⟨a, rfl, rfl⟩
    · rcases List.cons_eq_append_iff.mp ha with ⟨rfl, rfl⟩ | ⟨a', rfl, rfl⟩
      · refine .inr ⟨?_, [], inner, [], rest, by simp, rfl, by simpa using hinner⟩
        simp [htotal]
      · rcases ihrest rfl with heq | ⟨hlt, hin⟩
        · exact .inl (by simp [htotal, heq]; omega)
        · refine .inr ⟨by simp [htotal]; omega, ?_⟩
          simpa using hin.append ('<' :: inner ++ ['>'])
    · refine .inr ⟨?_, [], front', a, rest, rfl, rfl, hinner⟩
      rcases ihinner rfl with heq | ⟨hlt, -⟩
      · simp [heq]
      · simp only [List.count_cons_self, List.count_cons_of_ne (show '<' ≠ '>' by decide)]
        omega

theorem NestedAngles.count_le {front back : List Char} (h : NestedAngles (front ++ back)) :
    front.count '>' ≤ front.count '<' := by
  rcases h.count_cases rfl with heq | ⟨hlt, -⟩ <;> omega

/-- A place lies in an argument list if a `<` in front of it is still to be closed. -/
theorem inArguments_iff_count {front back : List Char} (h : NestedAngles (front ++ back)) :
    InArguments front back ↔ front.count '>' < front.count '<' := by
  constructor
  · rintro ⟨outer, inner, inner', outer', rfl, rfl, hinner⟩
    have houter : outer.count '>' ≤ outer.count '<' := by
      rw [List.append_assoc] at h
      exact h.count_le
    have hle := hinner.count_le
    simp only [List.count_append, List.count_cons_self,
      List.count_cons_of_ne (show '<' ≠ '>' by decide)]
    omega
  · intro hlt
    rcases h.count_cases rfl with heq | ⟨-, hin⟩
    · omega
    · exact hin

/-! ## Words put into a text -/

/-- Words that commute have the same letters. -/
theorem mem_of_append_comm {w u : List Char} (h : w ++ u = u ++ w) (hw : w ≠ []) {c : Char}
    (hc : c ∈ u) : c ∈ w := by
  -- Either word starts with the other, and what is left of the longer one commutes as well.
  rcases List.append_eq_append_iff.mp h with ⟨v, hu, hu'⟩ | ⟨v, rfl, -⟩
  · have hlength : v.length < u.length := by
      have := List.length_pos_iff.mpr hw
      simp [hu, this]
    rcases List.mem_append.mp (hu ▸ hc) with hc | hc
    · exact hc
    · exact mem_of_append_comm (hu.symm.trans hu') hw hc
  · exact List.mem_append_left v hc
termination_by u.length

/-- A text that has a word put in at two places has no other letters than those of the word between
the places. -/
theorem count_eq_of_insert {w front back front' back' : List Char} (hw : w ≠ []) {c : Char}
    (hc : c ∉ w) (htext : front ++ back = front' ++ back')
    (hinsert : front ++ w ++ back = front' ++ w ++ back') : front.count c = front'.count c := by
  have hbetween : ∀ {u : List Char}, w ++ u = u ++ w → u.count c = 0 := fun hu =>
    List.count_eq_zero.mpr fun hmem => hc (mem_of_append_comm hu hw hmem)
  rcases List.append_eq_append_iff.mp htext with ⟨u, rfl, rfl⟩ | ⟨u, rfl, rfl⟩
  · simp only [List.append_assoc, List.append_cancel_left_eq] at hinsert
    have hu : w ++ u = u ++ w := List.append_cancel_right (by simpa using hinsert)
    simp [hbetween hu]
  · simp only [List.append_assoc, List.append_cancel_left_eq] at hinsert
    have hu : w ++ u = u ++ w := List.append_cancel_right (by simpa using hinsert.symm)
    simp [hbetween hu]

/-! ## Declarations -/

/-- The characters of a text that are not blank. -/
def inked (s : List Char) : List Char := s.filter (!isBlank ·)

@[simp, grind =] theorem inked_append (s t : List Char) : inked (s ++ t) = inked s ++ inked t :=
  List.filter_append ..

@[simp, grind =] theorem inked_space (s : List Char) : inked (' ' :: s) = inked s := by
  simp [inked]

@[simp, grind =] theorem inked_trimRight (s : List Char) : inked (trimRight s) = inked s :=
  filter_dropRight (by simp) s

theorem count_inked {c : Char} (hc : isBlank c = false) (s : List Char) :
    (inked s).count c = s.count c :=
  List.count_filter (by simp [hc])

/-- Up to blanks, `declared` is the spelling `s` with `name` put in between `front` and `back`. -/
structure Declares (s name declared : String) (front back : List Char) : Prop where
  spelling : s.toList = front ++ back
  inserted : inked declared.toList = inked (front ++ name.toList ++ back)

/-- All places at which a declaration may have its name have the same angles in front of them. -/
theorem Declares.count_eq {s name declared : String} {front back front' back' : List Char}
    (h : Declares s name declared front back) (h' : Declares s name declared front' back')
    (hname : name ≠ "") (hblank : ∀ c ∈ name.toList, isBlank c = false) {c : Char}
    (hc : isBlank c = false) (hmem : c ∉ name.toList) : front.count c = front'.count c := by
  have hinked : inked name.toList = name.toList :=
    List.filter_eq_self.mpr (by simpa using hblank)
  have htext : inked front ++ inked back = inked front' ++ inked back' := by
    rw [← inked_append, ← inked_append, ← h.spelling, h'.spelling]
  have hinsert : inked front ++ name.toList ++ inked back =
      inked front' ++ name.toList ++ inked back' := by
    have heq := h.inserted.symm.trans h'.inserted
    simpa [hinked] using heq
  rw [← count_inked hc, ← count_inked hc front']
  exact count_eq_of_insert (by simpa using hname) hmem htext hinsert

/-- The sign of a pointer to a function or an array. -/
def pointerMark : List Char := "(*)".toList

/-- The first `(*)` of a spelling, or without one its first `[`, has a template argument list
around it. -/
def MarkedInArguments (s : List Char) : Prop :=
  (∃ front back, FirstAt pointerMark s front back ∧ InArguments front (pointerMark ++ back)) ∨
    ¬pointerMark <:+: s ∧
      ∃ front back, FirstAt ['['] s front back ∧ InArguments front ('[' :: back)

theorem markedInArguments_iff_of_pointer {s front back : List Char}
    (h : FirstAt pointerMark s front back) :
    MarkedInArguments s ↔ InArguments front (pointerMark ++ back) := by
  constructor
  · rintro (⟨front', back', h', hin⟩ | ⟨hnone, -⟩)
    · obtain ⟨rfl, rfl⟩ := h.unique h'
      exact hin
    · exact absurd ⟨front, back, h.split.symm⟩ hnone
  · intro hin
    exact .inl ⟨front, back, h, hin⟩

theorem markedInArguments_iff_of_array {s front back : List Char} (hnone : ¬pointerMark <:+: s)
    (h : FirstAt ['['] s front back) : MarkedInArguments s ↔ InArguments front ('[' :: back) := by
  constructor
  · rintro (⟨front', back', h', -⟩ | ⟨-, front', back', h', hin⟩)
    · exact absurd ⟨front', back', h'.split.symm⟩ hnone
    · obtain ⟨rfl, rfl⟩ := h.unique h'
      exact hin
  · intro hin
    exact .inr ⟨hnone, front, back, h, hin⟩

theorem not_markedInArguments {s : List Char} (hnone : ¬pointerMark <:+: s) (hmem : '[' ∉ s) :
    ¬MarkedInArguments s := by
  rintro (⟨front, back, h, -⟩ | ⟨-, front, back, h, -⟩)
  · exact hnone ⟨front, back, h.split.symm⟩
  · exact hmem (by simp [h.split])

/-- A declaration has its name at one place. In a text of nested angles, the place lies in an
argument list if the mark does. -/
theorem exists_declares (s name : String) :
    ∃ front back, Declares s name (declare s name) front back ∧
      (NestedAngles s.toList → (InArguments front back ↔ MarkedInArguments s.toList)) := by
  unfold declare
  split
  · next front back hcut =>
    have hfirst : FirstAt pointerMark s.toList front back := cutText?_eq_some_iff.mp hcut
    have hs : s.toList = (front ++ ['(', '*']) ++ (')' :: back) := by
      simp [hfirst.split, pointerMark]
    refine ⟨front ++ ['(', '*'], ')' :: back, ⟨hs, by simp⟩, fun hangles => ?_⟩
    have hangles' := hangles
    rw [hfirst.split, List.append_assoc] at hangles'
    rw [hs] at hangles
    rw [markedInArguments_iff_of_pointer hfirst, inArguments_iff_count hangles,
      inArguments_iff_count hangles']
    simp
  next hnone =>
  have hpointer : ¬pointerMark <:+: s.toList := cutText?_eq_none_iff.mp hnone
  split
  · next head tail hcut =>
    obtain ⟨hs, hmem⟩ := cut_eq_some_iff.mp hcut
    have hfirst : FirstAt ['['] s.toList head tail := hs ▸ firstAt_singleton hmem
    refine ⟨head, '[' :: tail, ⟨hs, ?_⟩, fun _ => ?_⟩
    · simp
    · rw [markedInArguments_iff_of_array hpointer hfirst]
  · next head hcut =>
    refine ⟨s.toList, [], ⟨by simp, by simp⟩, fun _ => ?_⟩
    have hmem := notMem_of_cut_eq_none hcut
    exact iff_of_false (not_inArguments_nil _) (not_markedInArguments hpointer hmem)

/-- The places at which the declaration may have its name lie in argument lists if the mark does. -/
theorem Declares.inArguments_iff {s name : String} {front back : List Char}
    (h : Declares s name (declare s name) front back) (hs : NestedAngles s.toList)
    (hname : name ≠ "") (hblank : ∀ c ∈ name.toList, isBlank c = false)
    (hopen : '<' ∉ name.toList) (hclose : '>' ∉ name.toList) :
    InArguments front back ↔ MarkedInArguments s.toList := by
  obtain ⟨front', back', h', hmarked⟩ := exists_declares s name
  have hfront := h.count_eq h' hname hblank (by decide) hopen
  have hback := h.count_eq h' hname hblank (by decide) hclose
  rw [← hmarked hs, inArguments_iff_count (h.spelling ▸ hs),
    inArguments_iff_count (h'.spelling ▸ hs), hfront, hback]

/-- The name stands behind the spelling if there is no mark. -/
theorem declare_eq_append_iff (s name : String) :
    declare s name = s ++ " " ++ name ↔ ¬pointerMark <:+: s.toList ∧ '[' ∉ s.toList := by
  constructor
  · intro h
    have hchars := congrArg String.toList h
    unfold declare at hchars
    split at hchars
    · next front back hcut =>
      -- Nothing but the name is added, so that a blank is missing.
      have hlength := congrArg List.length hchars
      have hs := congrArg List.length (cutText?_eq_some hcut)
      simp only [String.toList_append, String.toList_ofList, List.length_append] at hlength hs
      simp only [String.reduceToList, List.length_cons, List.length_nil] at hlength hs
      omega
    next hnone =>
    refine ⟨cutText?_eq_none_iff.mp hnone, ?_⟩
    split at hchars
    · next head tail hcut =>
      -- A blank is added in front of the name, so that none has been dropped.
      obtain ⟨hs, -⟩ := cut_eq_some_iff.mp hcut
      obtain ⟨blanks, hhead, -⟩ := exists_dropRight isBlank head
      simp only [String.toList_append, String.toList_ofList, String.reduceToList, hs] at hchars
      have hkept : trimRight head = head := by
        have hlength := congrArg List.length hchars
        have hhead' := congrArg List.length hhead
        simp only [List.length_append, List.length_cons, List.length_nil, trimRight]
          at hlength hhead'
        obtain rfl : blanks = [] := List.eq_nil_of_length_eq_zero (by omega)
        simpa [trimRight] using hhead.symm
      simp [hkept] at hchars
    · next head hcut => exact notMem_of_cut_eq_none hcut
  · rintro ⟨hpointer, hmem⟩
    have hnone : cutText? "(*)".toList s.toList = none := cutText?_eq_none_iff.mpr hpointer
    simp only [declare, hnone, cut_of_notMem hmem]

/-- Up to blanks, a declaration is the spelling with the name put in at one place. The place lies
outside of all template argument lists if and only if the first `(*)`, or else the first `[`, does,
and the name stands behind the whole spelling if and only if there is neither of them. -/
theorem declares_outside_arguments_iff (s name : String) (hs : NestedAngles s.toList)
    (hname : name ≠ "") (hblank : ∀ c ∈ name.toList, isBlank c = false)
    (hopen : '<' ∉ name.toList) (hclose : '>' ∉ name.toList) :
    (∃ front back, Declares s name (declare s name) front back) ∧
      (∀ front back, Declares s name (declare s name) front back →
        (¬InArguments front back ↔ ¬MarkedInArguments s.toList)) ∧
      (declare s name = s ++ " " ++ name ↔ ¬pointerMark <:+: s.toList ∧ '[' ∉ s.toList) := by
  refine ⟨?_, ?_, declare_eq_append_iff s name⟩
  · obtain ⟨front, back, h, -⟩ := exists_declares s name
    exact ⟨front, back, h⟩
  · intro front back h
    exact not_congr (h.inArguments_iff hs hname hblank hopen hclose)

/-- A pointer to a function, with a bracket in an argument behind the sign of the pointer. -/
def boxHandler : String := "Vec<int> (*)(Box<int [3]>)"

theorem declares_outside_arguments_iff_boxHandler :
    NestedAngles boxHandler.toList ∧ declare boxHandler "cb" = "Vec<int> (*cb)(Box<int [3]>)" ∧
      ∀ front back, Declares boxHandler "cb" (declare boxHandler "cb") front back →
        ¬InArguments front back := by
  have hbox : NestedAngles ('<' :: "int [3]".toList ++ '>' :: ")".toList) :=
    .arguments (.of_notMem (by decide) (by decide)) (.of_notMem (by decide) (by decide))
  have hvec : NestedAngles ('<' :: "int".toList ++ '>' :: " (*)(Box".toList) :=
    .arguments (.of_notMem (by decide) (by decide)) (.of_notMem (by decide) (by decide))
  have hname : NestedAngles "Vec".toList := .of_notMem (by decide) (by decide)
  have hs : NestedAngles boxHandler.toList := hname.append (hvec.append hbox)
  have hfirst : FirstAt pointerMark boxHandler.toList "Vec<int> ".toList "(Box<int [3]>)".toList :=
    cutText?_eq_some_iff.mp (by decide)
  have hmark : ¬MarkedInArguments boxHandler.toList := by
    rw [markedInArguments_iff_of_pointer hfirst, inArguments_iff_count hs]
    decide
  refine ⟨hs, by decide, fun front back h => ?_⟩
  have hblank : ∀ c ∈ "cb".toList, isBlank c = false := by simp [isBlank, inRanges, blankRanges]
  have hiff := declares_outside_arguments_iff boxHandler "cb" hs (by decide) hblank (by decide)
    (by decide)
  exact (hiff.2.1 front back h).mpr hmark

/-- The type of an argument is an array, and takes the name. -/
theorem declares_name_in_arguments :
    NestedAngles "std::array<int[3], 2>".toList ∧
      declare "std::array<int[3], 2>" "p" = "std::array<int p[3], 2>" ∧
      ∀ front back,
        Declares "std::array<int[3], 2>" "p" (declare "std::array<int[3], 2>" "p") front back →
          InArguments front back := by
  have harguments : NestedAngles ('<' :: "int[3], 2".toList ++ '>' :: []) :=
    .arguments (.of_notMem (by decide) (by decide)) .nil
  have hname : NestedAngles "std::array".toList := .of_notMem (by decide) (by decide)
  have hs : NestedAngles "std::array<int[3], 2>".toList := hname.append harguments
  have hfirst : FirstAt ['['] "std::array<int[3], 2>".toList "std::array<int".toList
      "3], 2>".toList := cutText?_eq_some_iff.mp (by decide)
  have hmark : MarkedInArguments "std::array<int[3], 2>".toList := by
    rw [markedInArguments_iff_of_array (cutText?_eq_none_iff.mp (by decide)) hfirst,
      inArguments_iff_count hs]
    decide
  refine ⟨hs, by decide, fun front back h => ?_⟩
  have hblank : ∀ c ∈ "p".toList, isBlank c = false := by simp [isBlank, inRanges, blankRanges]
  exact (h.inArguments_iff hs (by decide) hblank (by decide) (by decide)).mpr hmark

end HeaderMock.Spelling

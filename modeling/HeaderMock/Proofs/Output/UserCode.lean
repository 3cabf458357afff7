import HeaderMock.Output.File
import HeaderMock.Proofs.Output.Banner
import HeaderMock.Proofs.Text.Split
import Mathlib.Data.List.TakeWhile

/-!
# User code survives

A mock file that is generated again keeps the code between its marks, whatever the earlier file
looks like. What is taken out of a file consists of whole lines without marks; put together they
still have none, and neither has anything that the generator writes around them.

## Main definitions

* `UserCode.Opens`: a comment that starts with a mark, from its first character to the mark's last.
* `UserCode.Unmarked`: no line of a text has a mark.
* `UserCode.IsUserCode`: whole lines without marks.

## Main statements

* `UserCode.hasMark_iff`: a line has a mark where such a comment stands in it.
* `UserCode.isUserCode_extract`: what is taken out of a file is user code.
* `UserCode.extract_frame`: user code between the marked lines is taken out again.
* `UserCode.user_code_survives`: a mock file gives back the user code that it was generated with.
-/

namespace HeaderMock

/-! ## Base names -/

theorem Path.notMem_baseName (path : String) : '/' ∉ (Path.baseName path).toList := by
  simp only [Path.baseName, Path.baseChars, String.toList_ofList]
  cases h : (Text.splitAll '/' path.toList).getLast? with
  | none => simp
  | some piece => exact Text.notMem_of_mem_splitAll (List.mem_of_getLast? h)

namespace UserCode

open Text

/-! ## Marks in lines -/

/-- The texts that mark the lines around user code. -/
def marks : List (List Char) := [beginMark.toList, endMark.toList]

theorem isBlank_of_mem_mark : ∀ mark ∈ marks, ∀ c ∈ mark, isBlank c = false := by
  have hall : marks.all (fun mark => mark.all fun c => !isBlank c) = true := by decide
  simpa using hall

theorem underscore_mem_mark : ∀ mark ∈ marks, '_' ∈ mark := by decide

theorem isBlank_of_isLineEnd {c : Char} (h : isLineEnd c = true) : isBlank c = true := by
  simp only [isLineEnd, Bool.or_eq_true, beq_iff_eq] at h
  rcases h with ((((((((rfl | rfl) | rfl) | rfl) | rfl) | rfl) | rfl) | rfl) | rfl) | rfl <;> rfl

theorem notMem_mark {mark : List Char} (hm : mark ∈ marks) {c : Char} (hc : isBlank c = true) :
    c ∉ mark := fun h => by
  simp [isBlank_of_mem_mark mark hm c h] at hc

/-- A comment that starts with `mark`, from its first character to the mark's last. -/
def Opens (mark w : List Char) : Prop :=
  ∃ sign blanks, (sign = '/' ∨ sign = '*') ∧ (∀ c ∈ blanks, isBlank c = true) ∧
    w = '/' :: sign :: (blanks ++ mark)

theorem trimLeft_append {blanks s : List Char} (h : ∀ c ∈ blanks, isBlank c = true) :
    trimLeft (blanks ++ s) = trimLeft s :=
  List.dropWhile_append_of_pos h

theorem dropStart?_trimLeft_iff {mark s : List Char} (hm : mark ∈ marks) :
    (dropStart? mark (trimLeft s)).isSome = true ↔
      ∃ blanks, (∀ c ∈ blanks, isBlank c = true) ∧ blanks ++ mark <+: s := by
  constructor
  · intro h
    obtain ⟨r, hr⟩ := Option.isSome_iff_exists.mp h
    refine ⟨s.takeWhile isBlank, fun c hc => List.mem_takeWhile_imp hc, r, ?_⟩
    rw [List.append_assoc, ← dropStart?_eq_some_iff.mp hr]
    exact List.takeWhile_append_dropWhile
  · rintro ⟨blanks, hblanks, r, rfl⟩
    obtain ⟨c, m, rfl⟩ := List.exists_cons_of_ne_nil
      (List.ne_nil_of_mem (underscore_mem_mark mark hm))
    have hc : ¬isBlank c = true := by simp [isBlank_of_mem_mark _ hm c]
    have hstart : trimLeft (c :: m ++ r) = c :: m ++ r := List.dropWhile_cons_of_neg hc
    rw [List.append_assoc, trimLeft_append hblanks, hstart, dropStart?_eq_some_iff.mpr rfl]
    rfl

theorem opensComment_iff {mark s : List Char} (hm : mark ∈ marks) :
    opensComment mark s = true ↔ ∃ w, Opens mark w ∧ w <+: s := by
  unfold opensComment
  split
  · next r =>
    rw [dropStart?_trimLeft_iff hm]
    constructor
    · rintro ⟨blanks, hb, hp⟩
      exact ⟨_, ⟨'/', blanks, .inl rfl, hb, rfl⟩, by simpa using hp⟩
    · rintro ⟨_, ⟨sign, blanks, -, hb, rfl⟩, hp⟩
      exact ⟨blanks, hb, by simp_all⟩
  · next r =>
    rw [dropStart?_trimLeft_iff hm]
    constructor
    · rintro ⟨blanks, hb, hp⟩
      exact ⟨_, ⟨'*', blanks, .inr rfl, hb, rfl⟩, by simpa using hp⟩
    · rintro ⟨_, ⟨sign, blanks, -, hb, rfl⟩, hp⟩
      exact ⟨blanks, hb, by simp_all⟩
  · next h₁ h₂ =>
    constructor
    · simp
    · rintro ⟨_, ⟨sign, blanks, hsign, hb, rfl⟩, r, rfl⟩
      rcases hsign with rfl | rfl
      · exact absurd rfl (h₁ _)
      · exact absurd rfl (h₂ _)

/-- A line has a mark where a comment that starts with the mark stands in it. -/
theorem hasMark_iff {mark l : List Char} (hm : mark ∈ marks) :
    hasMark mark l = true ↔ ∃ w, Opens mark w ∧ w <:+: l := by
  induction l with
  | nil =>
    simp only [hasMark, Bool.false_eq_true, List.infix_nil, false_iff]
    rintro ⟨_, ⟨_, _, _, _, rfl⟩, h⟩
    simp at h
  | cons c r ih =>
    simp only [hasMark, Bool.or_eq_true, opensComment_iff hm, ih, List.infix_cons_iff]
    constructor
    · rintro (⟨w, hw, h⟩ | ⟨w, hw, h⟩)
      · exact ⟨w, hw, .inl h⟩
      · exact ⟨w, hw, .inr h⟩
    · rintro ⟨w, hw, h | h⟩
      · exact .inl ⟨w, hw, h⟩
      · exact .inr ⟨w, hw, h⟩

/-! ## Texts without marks -/

/-- No comment that starts with a mark stands on one line of a text. -/
def Unmarked (s : List Char) : Prop :=
  ∀ mark ∈ marks, ∀ w, Opens mark w → (∀ c ∈ w, isLineEnd c = false) → ¬w <:+: s

theorem unmarked_append_cons_iff {a b : List Char} {e : Char} (he : isLineEnd e = true) :
    Unmarked (a ++ e :: b) ↔ Unmarked a ∧ Unmarked b := by
  have hcut : ∀ {w : List Char}, (∀ c ∈ w, isLineEnd c = false) →
      (w <:+: a ++ e :: b ↔ w <:+: a ∨ w <:+: b) := fun hw =>
    infix_append_cons_iff fun hmem => by simp [hw e hmem] at he
  constructor
  · intro h
    exact ⟨fun mark hm w ho hw hi => h mark hm w ho hw ((hcut hw).mpr (.inl hi)),
      fun mark hm w ho hw hi => h mark hm w ho hw ((hcut hw).mpr (.inr hi))⟩
  · rintro ⟨ha, hb⟩ mark hm w ho hw hi
    exact ((hcut hw).mp hi).elim (ha mark hm w ho hw) (hb mark hm w ho hw)

theorem Unmarked.append {a b : List Char} (ha : Unmarked a) (hends : EndsLine a)
    (hb : Unmarked b) : Unmarked (a ++ b) := by
  rcases List.eq_nil_or_concat a with rfl | ⟨x, e, rfl⟩
  · exact hb
  · rw [List.concat_eq_append] at ha ⊢
    have he : isLineEnd e = true := hends e (by simp)
    rw [List.append_assoc, List.singleton_append, unmarked_append_cons_iff he]
    exact ⟨((unmarked_append_cons_iff he).mp ha).1, hb⟩

theorem unmarked_of_slash_notMem {s : List Char} (h : '/' ∉ s) : Unmarked s := by
  rintro mark - _ ⟨sign, blanks, -, -, rfl⟩ - hi
  exact h (hi.subset (by simp))

theorem unmarked_of_not_infix {s : List Char} (h : ∀ mark ∈ marks, ¬mark <:+: s) : Unmarked s := by
  rintro mark hm _ ⟨sign, blanks, -, -, rfl⟩ - hi
  exact h mark hm ((List.suffix_append ('/' :: sign :: blanks) mark).isInfix.trans hi)

/-- No mark comes up when a text is read back. -/
theorem Unmarked.unifyNewlines {s : List Char} (h : Unmarked s) : Unmarked (unifyNewlines s) := by
  intro mark hm w ho hw hi
  have hne : ∀ c, isLineEnd c = true → c ∉ w := fun c hc hmem => by simp [hw c hmem] at hc
  exact h mark hm w ho hw (infix_of_infix_unifyNewlines (hne _ rfl) (hne _ rfl) hi)

/-- What opens with a mark does not end with a line end, so on a line it has none at all. -/
theorem Opens.forall_of_infix {mark w l : List Char} (hm : mark ∈ marks) (ho : Opens mark w)
    (hl : IsLine l) (h : w <:+: l) : ∀ c ∈ w, isLineEnd c = false := by
  obtain ⟨sign, blanks, -, -, rfl⟩ := ho
  rcases List.eq_nil_or_concat mark with rfl | ⟨m, c, rfl⟩
  · exact absurd (underscore_mem_mark _ hm) (by simp)
  · have hc : isLineEnd c = false := by
      rw [Bool.eq_false_iff]
      intro hc
      exact notMem_mark hm (isBlank_of_isLineEnd hc) (by simp)
    have hw : '/' :: sign :: (blanks ++ m.concat c) = ('/' :: sign :: (blanks ++ m)) ++ [c] := by
      simp
    rw [hw] at h ⊢
    exact hl.forall_of_infix h hc

theorem Unmarked.hasMark_eq_false {s l mark : List Char} (h : Unmarked s) (hl : l ∈ lines s)
    (hm : mark ∈ marks) : hasMark mark l = false := by
  rw [Bool.eq_false_iff]
  intro hmark
  obtain ⟨w, ho, hi⟩ := (hasMark_iff hm).mp hmark
  exact h mark hm w ho (ho.forall_of_infix hm (isLine_of_mem_lines hl) hi)
    (hi.trans (infix_of_mem_lines hl))

/-- Lines without marks have none when they are put together, whatever lines arise. -/
theorem unmarked_flatten {ls : List (List Char)}
    (h : ∀ l ∈ ls, EndsLine l ∧ ∀ mark ∈ marks, hasMark mark l = false) :
    Unmarked ls.flatten := by
  intro mark hm w ho hw hi
  have hne : w ≠ [] := by
    obtain ⟨_, _, _, _, rfl⟩ := ho
    simp
  obtain ⟨l, hl, hwl⟩ := infix_of_infix_flatten hne hw (fun l hl => (h l hl).1) hi
  have := (hasMark_iff hm).mpr ⟨w, ho, hwl⟩
  simp [(h l hl).2 mark hm] at this

/-- Whole lines without marks. -/
def IsUserCode (code : String) : Prop := Unmarked code.toList ∧ EndsLine code.toList

/-! ## Sections -/

theorem sections_append (isOpen : Bool) (xs ys : List (List Char)) :
    sections isOpen (xs ++ ys) =
      ((sections isOpen xs).1 ++ (sections (sections isOpen xs).2 ys).1,
        (sections (sections isOpen xs).2 ys).2) := by
  induction xs generalizing isOpen with
  | nil => simp [sections]
  | cons x xs ih =>
    simp only [List.cons_append, sections]
    split
    · exact ih true
    · split
      · exact ih false
      · rw [ih isOpen]
        cases isOpen <;> simp

/-- Lines without marks are kept inside a section and dropped outside. -/
theorem sections_of_unmarked {isOpen : Bool} {ls : List (List Char)}
    (h : ∀ l ∈ ls, ∀ mark ∈ marks, hasMark mark l = false) :
    sections isOpen ls = (if isOpen then ls.flatten else [], isOpen) := by
  induction ls with
  | nil => simp [sections]
  | cons l ls ih =>
    have hl := h l (by simp)
    simp only [sections, hl beginMark.toList (by simp [marks]), hl endMark.toList (by simp [marks]),
      Bool.false_eq_true, if_false, ih fun l' hl' => h l' (by simp [hl'])]
    cases isOpen <;> simp

/-- What is kept of some lines are unmarked ones of them. Where no section is left open and all
lines but the last one have their ends, all kept lines have them. -/
theorem exists_kept_of_sections {isOpen : Bool} {ls : List (List Char)} {code : List Char}
    (h : sections isOpen ls = (code, false)) (hends : ∀ l ∈ ls.dropLast, EndsLine l) :
    ∃ kept : List (List Char), code = kept.flatten ∧ ∀ l ∈ kept,
      l ∈ ls ∧ EndsLine l ∧ ∀ mark ∈ marks, hasMark mark l = false := by
  induction ls generalizing isOpen code with
  | nil =>
    simp only [sections, Prod.mk.injEq] at h
    exact ⟨[], by simp [← h.1], by simp⟩
  | cons l ls ih =>
    have hrest : ∀ l' ∈ ls.dropLast, EndsLine l' := fun l' hl' => by
      cases ls with
      | nil => simp at hl'
      | cons _ _ => exact hends l' (by simp [hl'])
    have skip : ∀ {o c}, sections o ls = (c, false) → ∃ kept : List (List Char), c = kept.flatten ∧
        ∀ l' ∈ kept, l' ∈ l :: ls ∧ EndsLine l' ∧ ∀ mark ∈ marks, hasMark mark l' = false := by
      intro o c ho
      obtain ⟨kept, rfl, hkept⟩ := ih ho hrest
      exact ⟨kept, rfl, fun l' hl' => ⟨by simp [(hkept l' hl').1], (hkept l' hl').2⟩⟩
    simp only [sections] at h
    split at h
    · exact skip h
    split at h
    · exact skip h
    · next hbegin hend =>
      obtain ⟨rfl, hopen⟩ := Prod.mk.inj h
      cases isOpen with
      | false => exact skip (Prod.ext rfl hopen)
      | true =>
        obtain ⟨kept, hcode, hkept⟩ := skip (Prod.ext rfl hopen)
        refine ⟨l :: kept, by simp [hcode], fun l' hl' => ?_⟩
        rcases List.mem_cons.mp hl' with rfl | hl'
        · refine ⟨by simp, ?_, by simp [marks, hbegin, hend]⟩
          cases ls with
          | nil => simp [sections] at hopen
          | cons _ _ => exact hends l' (by simp)
        · exact hkept l' hl'

/-- What is taken out of a file is user code. -/
theorem isUserCode_extract (t : String) : IsUserCode (extract t) := by
  unfold extract
  split
  · next code h =>
    obtain ⟨kept, rfl, hkept⟩ :=
      exists_kept_of_sections h fun l hl => (endsLine_of_mem_dropLast_lines hl).2
    rw [IsUserCode, String.toList_ofList]
    exact ⟨unmarked_flatten fun l hl => (hkept l hl).2,
      endsLine_flatten fun l hl => (hkept l hl).2.1⟩
  · exact ⟨unmarked_of_slash_notMem (by simp), by simp [EndsLine]⟩

theorem mem_of_mem_extract {t : String} {c : Char} (h : c ∈ (extract t).toList) :
    c ∈ t.toList := by
  unfold extract at h
  split at h
  · next code hs =>
    obtain ⟨kept, rfl, hkept⟩ :=
      exists_kept_of_sections hs fun l hl => (endsLine_of_mem_dropLast_lines hl).2
    obtain ⟨l, hl, hc⟩ := List.mem_flatten.mp (by simpa using h)
    exact (infix_of_mem_lines (hkept l hl).1).subset hc
  · simp at h

/-! ## Composed files -/

/-- The text of a line that opens or closes a section. -/
def markText (mark : List Char) : List Char := "// ".toList ++ mark

theorem lines_markText {mark : List Char} (hm : mark ∈ marks) (rest : List Char) :
    lines (markText mark ++ '\n' :: rest) = (markText mark ++ ['\n']) :: lines rest := by
  refine lines_append_lineFeed (fun c hc => ?_) rest
  rw [Bool.eq_false_iff]
  intro hend
  rcases List.mem_append.mp hc with hc | hc
  · simp only [String.reduceToList, List.mem_cons, List.not_mem_nil, or_false] at hc
    rcases hc with rfl | rfl | rfl <;> simp [isLineEnd] at hend
  · exact notMem_mark hm (isBlank_of_isLineEnd hend) hc

theorem hasMark_begin : hasMark beginMark.toList (markText beginMark.toList ++ ['\n']) = true := by
  decide

theorem hasMark_end : hasMark beginMark.toList (markText endMark.toList ++ ['\n']) = false ∧
    hasMark endMark.toList (markText endMark.toList ++ ['\n']) = true := by
  decide

/-- User code between the marked lines. -/
def frame (front code back : List Char) : List Char :=
  front ++ (markText beginMark.toList ++
    '\n' :: (code ++ (markText endMark.toList ++ '\n' :: back)))

theorem lines_frame {front code back : List Char} (hfront : EndsLine front)
    (hcode : EndsLine code) :
    lines (frame front code back) = lines front ++ ((markText beginMark.toList ++ ['\n']) ::
      (lines code ++ (markText endMark.toList ++ ['\n']) :: lines back)) := by
  rw [frame, lines_append hfront (by simp [markText]), lines_markText (by simp [marks]),
    lines_append hcode (by simp [markText]), lines_markText (by simp [marks])]

/-- User code between the marked lines is taken out again. -/
theorem extract_frame {front code back : List Char} (hfront : Unmarked front)
    (hends : EndsLine front) (hcode : Unmarked code) (hcodeEnds : EndsLine code)
    (hback : Unmarked back) :
    extract (String.ofList (frame front code back)) = String.ofList code := by
  have outside : ∀ {s}, Unmarked s → sections false (lines s) = ([], false) := fun h =>
    sections_of_unmarked fun l hl mark => h.hasMark_eq_false hl
  have inside : sections true (lines code) = ((lines code).flatten, true) :=
    sections_of_unmarked fun l hl mark => hcode.hasMark_eq_false hl
  have hsections : sections false (lines (frame front code back)) = (code, false) := by
    rw [lines_frame hends hcodeEnds, sections_append, outside hfront, sections,
      if_pos hasMark_begin, sections_append, inside, sections, hasMark_end.1, if_neg (by simp),
      if_pos hasMark_end.2, outside hback]
    simp
  rw [extract, String.toList_ofList, hsections]

/-- The frame and the user code are read back one by one. -/
theorem unifyNewlines_frame {front code : List Char} (hfront : front.getLast? = some '\n')
    (hcode : '\r' ∉ code) (back : List Char) :
    unifyNewlines (frame front code back) =
      frame (unifyNewlines front) code (unifyNewlines back) := by
  have hbegin : '\r' ∉ markText beginMark.toList := by decide
  have hend : '\r' ∉ code ++ markText endMark.toList := by
    simpa [hcode] using (by decide : '\r' ∉ markText endMark.toList)
  rw [frame, unifyNewlines_append hfront, unifyNewlines_line hbegin, ← List.append_assoc code,
    unifyNewlines_line hend, List.append_assoc code, frame]

/-! ## Mock files -/

/-- A text in which one of the marks occurs. -/
def Mentions (s : String) : Prop := ∃ mark ∈ marks, mark <:+: s.toList

instance (s : String) : Decidable (Mentions s) :=
  inferInstanceAs (Decidable (∃ mark ∈ marks, mark <:+: s.toList))

theorem not_infix_of_underscore_notMem {mark s : List Char} (hm : mark ∈ marks) (h : '_' ∉ s) :
    ¬mark <:+: s :=
  fun hi => h (hi.subset (underscore_mem_mark mark hm))

theorem unmarked_banner {options : String} (h : ¬Mentions options) :
    Unmarked (Banner.render options).toList := by
  have hfixed : ∀ l ∈ Banner.heading ++ [" *", " */", ""], '_' ∉ l.toList := by decide
  refine unmarked_of_not_infix fun mark hm hi => ?_
  have hne : mark ≠ [] := List.ne_nil_of_mem (underscore_mem_mark mark hm)
  rw [Banner.render_eq_unlines, infix_unlines_iff hne (notMem_mark hm rfl)] at hi
  obtain ⟨l, hl, hi⟩ := hi
  simp only [Banner.parts, List.mem_append] at hl
  rcases hl with (hl | hl) | hl
  · exact not_infix_of_underscore_notMem hm (hfixed l (by simp [hl])) hi
  · split at hl
    · simp at hl
    · simp only [List.mem_cons, List.not_mem_nil, or_false] at hl
      rcases hl with rfl | rfl
      · exact not_infix_of_underscore_notMem hm (by decide) hi
      · -- A mark has no blank, so it cannot start before the options.
        rw [show (Banner.optionsMark ++ options).toList =
          " * Generation options:".toList ++ ' ' :: options.toList by simp [Banner.optionsMark],
          infix_append_cons_iff (notMem_mark hm rfl)] at hi
        rcases hi with hi | hi
        · exact not_infix_of_underscore_notMem hm (by decide) hi
        · exact h ⟨mark, hm, hi⟩
  · exact not_infix_of_underscore_notMem hm (hfixed l (by simp_all)) hi

theorem unmarked_includeInput (input : String) (cpp : Bool) :
    Unmarked (includeInput input cpp).toList := by
  have hbase := Path.notMem_baseName input
  refine unmarked_of_slash_notMem ?_
  unfold includeInput includeQuoted
  split <;> simpa using hbase

theorem unmarked_paragraphs {texts : List String} (h : ∀ text ∈ texts, ¬Mentions text) :
    Unmarked (paragraphs texts).toList := by
  have hlines : paragraphs texts = unlines texts := by
    induction texts with
    | nil => rfl
    | cons text texts ih =>
      have := ih fun text' hmem => h text' (by simp [hmem])
      simp_all [paragraphs, unlines]
  refine unmarked_of_not_infix fun mark hm hi => ?_
  have hne : mark ≠ [] := List.ne_nil_of_mem (underscore_mem_mark mark hm)
  rw [hlines, infix_unlines_iff hne (notMem_mark hm rfl)] at hi
  obtain ⟨text, hmem, hi⟩ := hi
  exact h text hmem ⟨mark, hm, hi⟩

/-- What stands above the user code in a mock file. -/
def front (input : String) (cpp : Bool) (options : String) : String :=
  Banner.render options ++ includeInput input cpp ++ "\n" ++ includeMockSupport ++ "\n"

@[simp, grind =] theorem getLast?_front (input : String) (cpp : Bool) (options : String) :
    (front input cpp options).toList.getLast? = some '\n' := by
  simp [front, List.getLast?_cons]

theorem unmarked_front {options : String} (h : ¬Mentions options) (input : String) (cpp : Bool) :
    Unmarked (front input cpp options).toList := by
  have hbanner : EndsLine (Banner.render options).toList :=
    endsLine_of_getLast? (Banner.getLast?_render options)
  have hinclude : EndsLine (includeInput input cpp).toList := by
    refine endsLine_of_getLast? ?_
    unfold includeInput includeQuoted
    split <;> simp [List.getLast?_cons]
  have hrest : Unmarked ("\n" ++ includeMockSupport ++ "\n").toList :=
    unmarked_of_not_infix fun mark hm => not_infix_of_underscore_notMem hm (by decide)
  simp only [front, String.append_assoc, String.toList_append] at hrest ⊢
  exact (unmarked_banner h).append hbanner ((unmarked_includeInput input cpp).append hinclude hrest)

theorem unmarked_back {texts : List String} (h : ∀ text ∈ texts, ¬Mentions text) :
    Unmarked ("\n" ++ paragraphs texts).toList := by
  rw [String.toList_append]
  exact (unmarked_append_cons_iff (a := []) rfl).mpr
    ⟨unmarked_of_slash_notMem (by simp), unmarked_paragraphs h⟩

theorem toList_mockFile (unit : GeneratedUnit) (input : String) (cpp : Bool)
    (options code : String) :
    (unit.mockFile input cpp options code).toList =
      frame (front input cpp options).toList code.toList
        ("\n" ++ paragraphs unit.mocks).toList := by
  simp [GeneratedUnit.mockFile, front, frame, markText]

section Survival

variable {unit : GeneratedUnit} {options : String} (hoptions : ¬Mentions options)
  (hmocks : ∀ mock ∈ unit.mocks, ¬Mentions mock) (input : String) (cpp : Bool)

include hoptions hmocks

/-- A mock file gives back the user code that it was generated with. -/
theorem extract_mockFile {code : String} (h : IsUserCode code) :
    extract (unit.mockFile input cpp options code) = code := by
  have hfront := endsLine_of_getLast? (getLast?_front input cpp options)
  have := extract_frame (unmarked_front hoptions input cpp) hfront h.1 h.2 (unmarked_back hmocks)
  rwa [← toList_mockFile, String.ofList_toList, String.ofList_toList] at this

/-- So does a mock file that is read back, if the user code has no carriage returns. -/
theorem extract_asRead_mockFile {code : String} (h : IsUserCode code) (hcr : '\r' ∉ code.toList) :
    extract (asRead (unit.mockFile input cpp options code)) = code := by
  have hlast := getLast?_front input cpp options
  have := extract_frame (unmarked_front hoptions input cpp).unifyNewlines
    (endsLine_of_getLast? (getLast?_unifyNewlines hlast)) h.1 h.2
    (unmarked_back hmocks).unifyNewlines
  rwa [← unifyNewlines_frame hlast hcr, ← toList_mockFile, String.ofList_toList] at this

end Survival

/-- Whatever the earlier file `t` holds, its user code is in the new mock file and is taken out of
it again, so that generating the mock file once more changes nothing. This also holds where the
files are read back with plain line feeds. All user code can be kept in this way, not only what an
earlier file holds. -/
theorem user_code_survives {unit : GeneratedUnit} {options : String}
    (hoptions : ¬Mentions options) (hmocks : ∀ mock ∈ unit.mocks, ¬Mentions mock)
    (input : String) (cpp : Bool) :
    (∀ t : String, let code := extract t
      let file := unit.mockFile input cpp options code
      IsUserCode code ∧ extract file = code ∧
        unit.mockFile input cpp options (extract file) = file) ∧
    (∀ t : String, let code := extract (asRead t)
      let file := unit.mockFile input cpp options code
      IsUserCode code ∧ extract (asRead file) = code ∧
        unit.mockFile input cpp options (extract (asRead file)) = file) ∧
    ∀ code, IsUserCode code → extract (unit.mockFile input cpp options code) = code := by
  refine ⟨fun t => ?_, fun t => ?_, fun code => extract_mockFile hoptions hmocks input cpp⟩
  · have hcode := isUserCode_extract t
    have hkept := extract_mockFile hoptions hmocks input cpp hcode
    exact ⟨hcode, hkept, by rw [hkept]⟩
  · have hcode := isUserCode_extract (asRead t)
    have hcr : '\r' ∉ (extract (asRead t)).toList := fun h => by
      have := mem_of_mem_extract h
      rw [asRead, String.toList_ofList] at this
      exact notMem_unifyNewlines _ this
    have hkept := extract_asRead_mockFile hoptions hmocks input cpp hcode hcr
    exact ⟨hcode, hkept, by rw [hkept]⟩

/-- Two sections whose lines form a pair of carriage return and line feed when they are put
together. -/
def gluedSections : String :=
  "// CPPUMOCKGEN_USER_CODE_BEGIN\nint a;\r// CPPUMOCKGEN_USER_CODE_END\n" ++
    "/*CPPUMOCKGEN_USER_CODE_BEGIN*/\n\nint b;\n// CPPUMOCKGEN_USER_CODE_END"

/-- A unit with one mock. -/
def smallUnit : GeneratedUnit := { mocks := ["int f();\n"] }

theorem user_code_survives_glued :
    ¬Mentions "-x" ∧ (∀ mock ∈ smallUnit.mocks, ¬Mentions mock) ∧
      extract gluedSections = "int a;\r\nint b;\n" ∧
      extract (smallUnit.mockFile "f.hpp" true "-x" (extract gluedSections)) =
        extract gluedSections := by
  have hoptions : ¬Mentions "-x" := by decide
  have hmocks : ∀ mock ∈ smallUnit.mocks, ¬Mentions mock := by decide
  obtain ⟨kept, -, -⟩ := user_code_survives hoptions hmocks "f.hpp" true
  exact ⟨hoptions, hmocks, by decide +kernel, (kept gluedSections).2.1⟩

end UserCode

end HeaderMock

import HeaderMock.Proofs.CType.Bare
import HeaderMock.Proofs.Text.Split

/-!
# What is stripped from a spelling

The bare spelling of a type is what is left between the keywords in front of it and the declarators
behind it. The keywords are read first and from the front, the declarators from the end of what is
left, and both readers go as far as they can. So the bare spelling has neither at its ends, and is
the only part of the spelling of which this is true.

## Main definitions

* `KeywordRun`, `DeclaratorRun`: the texts that may be stripped from the two ends of a spelling.
* `StartsWithKeyword`, `EndsInDeclarator`, `IsBare`: texts from which nothing more is stripped.
* `IsStripped`: a text taken apart into keywords, a bare spelling and declarators.

## Main statements

* `exists_keywordRun`, `exists_declaratorRun`: what the two readers drop.
* `dropKeywords_append_of_keywordRun`, `dropDeclarators_append`: the readers drop all such texts.
* `bare_eq_iff_isStripped`: a spelling is taken apart in this way around its bare spelling and
  around no other text, and nothing more is stripped from a bare spelling.
-/

namespace HeaderMock

namespace Text

/-! ## Ends of texts -/

theorem not_isWordChar_of_isBlank {c : Char} (h : isBlank c = true) : isWordChar c = false := by
  have hapart : ∀ r ∈ blankRanges, ∀ r' ∈ alphanumericRanges, r.2 < r'.1 ∨ r'.2 < r.1 := by
    decide +kernel
  obtain ⟨r, hr, hlo, hhi⟩ := inRanges_iff.mp h
  have hletter : inRanges alphanumericRanges c = false := by
    rw [← Bool.not_eq_true, inRanges_iff]
    rintro ⟨r', hr', hlo', hhi'⟩
    have := hapart r hr r' hr'
    omega
  have hne : c ≠ '_' := by
    rintro rfl
    exact absurd h (by decide)
  simp [isWordChar, hne, hletter]

theorem head?_trimLeft (s : List Char) : (trimLeft s).head?.any isBlank = false := by
  have hhead := List.head?_dropWhile_not isBlank s
  rw [trimLeft, dropLeft]
  cases h : (s.dropWhile isBlank).head? with
  | none => rfl
  | some c => simpa [h] using hhead

theorem head?_append_of_not_isBlank {front : List Char} (hsome : front ≠ [])
    (h : ∀ c ∈ front, isBlank c = false) (s : List Char) :
    (front ++ s).head?.any isBlank = false := by
  obtain ⟨c, front, rfl⟩ := List.exists_cons_of_ne_nil hsome
  simpa using h c (by simp)

theorem trimLeft_eq_self {s : List Char} (h : s.head?.any isBlank = false) : trimLeft s = s := by
  cases s with
  | nil => rfl
  | cons c s => simp_all [trimLeft, dropLeft]

theorem dropRight_eq_self {p : Char → Bool} {s : List Char} (h : s.getLast?.any p = false) :
    dropRight p s = s := by
  obtain ⟨tail, hs, htail⟩ := exists_dropRight p s
  rcases List.eq_nil_or_concat tail with rfl | ⟨front, c, rfl⟩
  · simpa using hs.symm
  · rw [hs] at h
    simp [htail c (by simp)] at h

theorem trim_eq_self {s : List Char} (hfront : s.head?.any isBlank = false)
    (hback : s.getLast?.any isBlank = false) : trim s = s := by
  rw [trim, trimLeft_eq_self hfront, trimRight, dropRight_eq_self hback]

end Text

namespace Spelling

open Text

/-! ## Keywords in front -/

/-- Keywords, each with blanks after it. -/
inductive KeywordRun : List Char → Prop where
  | nil : KeywordRun []
  | keyword {word : String} {blanks rest : List Char} (hword : word ∈ keywords)
      (hsome : blanks ≠ []) (hblanks : ∀ c ∈ blanks, isBlank c = true) (hrest : KeywordRun rest) :
      KeywordRun (word.toList ++ blanks ++ rest)

/-- The text starts with a keyword and a blank after it. -/
def StartsWithKeyword (s : List Char) : Prop :=
  ∃ word ∈ keywords, ∃ blank rest, isBlank blank = true ∧ s = word.toList ++ blank :: rest

theorem dropKeyword?_eq_none_iff {s : List Char} :
    dropKeyword? s = none ↔ ¬StartsWithKeyword s := by
  simp only [Option.eq_none_iff_forall_ne_some, ne_eq, dropKeyword?_eq_some_iff, StartsWithKeyword]
  grind

theorem StartsWithKeyword.append {s : List Char} (h : StartsWithKeyword s) (back : List Char) :
    StartsWithKeyword (s ++ back) := by
  obtain ⟨word, hword, blank, rest, hblank, rfl⟩ := h
  exact ⟨word, hword, blank, rest ++ back, hblank, by simp⟩

/-- What is dropped in front of a text are keywords. -/
theorem exists_keywordRun (s : List Char) : ∃ run, s = run ++ dropKeywords s ∧ KeywordRun run := by
  fun_induction dropKeywords s with
  | case1 s rest h _ ih =>
    obtain ⟨word, hword, blank, tail, hblank, rfl, rfl⟩ := dropKeyword?_eq_some_iff.mp h
    obtain ⟨run, hrun, hkeywords⟩ := ih
    have htail : tail = tail.takeWhile isBlank ++ trimLeft tail :=
      List.takeWhile_append_dropWhile.symm
    refine ⟨word.toList ++ blank :: tail.takeWhile isBlank ++ run, ?_,
      .keyword hword nofun ?_ hkeywords⟩
    · rw [List.append_assoc, List.append_assoc, List.cons_append, ← hrun, ← htail]
    · intro c hc
      rcases List.mem_cons.mp hc with rfl | hc
      · exact hblank
      · exact List.all_eq_true.mp List.all_takeWhile c hc
  | case2 s => exact ⟨[], rfl, .nil⟩

/-- No keyword is left in front of a text. -/
theorem not_startsWithKeyword_dropKeywords (s : List Char) :
    ¬StartsWithKeyword (dropKeywords s) := by
  fun_induction dropKeywords s with
  | case1 _ _ _ _ ih => exact ih
  | case2 s h => exact dropKeyword?_eq_none_iff.mp h

theorem head?_dropKeywords {s : List Char} (h : s.head?.any isBlank = false) :
    (dropKeywords s).head?.any isBlank = false := by
  fun_induction dropKeywords s with
  | case1 s rest hrest _ ih =>
    obtain ⟨word, -, blank, tail, -, -, rfl⟩ := dropKeyword?_eq_some_iff.mp hrest
    exact ih (head?_trimLeft tail)
  | case2 => exact h

theorem ne_nil_of_mem_keywords {word : String} (h : word ∈ keywords) : word.toList ≠ [] := by
  have hall : ∀ word ∈ keywords, word.toList ≠ [] := by decide
  exact hall word h

theorem KeywordRun.head?_append {run s : List Char} (hrun : KeywordRun run)
    (hs : s.head?.any isBlank = false) : (run ++ s).head?.any isBlank = false := by
  cases hrun with
  | nil => exact hs
  | @keyword word blanks rest hword _ _ _ =>
    rw [List.append_assoc, List.append_assoc]
    refine head?_append_of_not_isBlank (ne_nil_of_mem_keywords hword) ?_ _
    simpa using not_isBlank_of_mem_keywords hword

/-- All keywords in front of a text are dropped. -/
theorem dropKeywords_append_of_keywordRun {run s : List Char} (hrun : KeywordRun run)
    (hblank : s.head?.any isBlank = false) (hkeyword : ¬StartsWithKeyword s) :
    dropKeywords (run ++ s) = s := by
  induction hrun with
  | nil => exact dropKeywords_of_none (dropKeyword?_eq_none_iff.mpr hkeyword)
  | @keyword word blanks rest hword hsome hblanks hrest ih =>
    obtain ⟨blank, blanks, rfl⟩ := List.exists_cons_of_ne_nil hsome
    have htrim : trimLeft (blanks ++ (rest ++ s)) = rest ++ s := by
      rw [trimLeft, dropLeft, List.dropWhile_append_of_pos fun c hc => hblanks c (by simp [hc])]
      exact trimLeft_eq_self (hrest.head?_append hblank)
    calc dropKeywords (word.toList ++ blank :: blanks ++ rest ++ s)
        = dropKeywords (word.toList ++ blank :: (blanks ++ (rest ++ s))) := by simp
      _ = dropKeywords (rest ++ s) := by
          rw [dropKeywords_of_some (dropKeyword?_append hword (hblanks blank (by simp)) _), htrim]
      _ = s := ih

theorem KeywordRun.not_isWordChar {run : List Char} (hrun : KeywordRun run) :
    run.getLast?.any isWordChar = false := by
  induction hrun with
  | nil => rfl
  | @keyword word blanks rest _ hsome hblanks _ ih =>
    rw [List.getLast?_append]
    cases hlast : rest.getLast? with
    | some c => simpa [hlast] using ih
    | none =>
      obtain ⟨front, blank, rfl⟩ := (List.eq_nil_or_concat blanks).resolve_left hsome
      simpa using not_isWordChar_of_isBlank (hblanks blank (by simp))

/-! ## Declarators behind -/

/-- A word between `front` and `back` is a whole word: it does not go on in them. -/
structure IsWholeWord (front back : List Char) : Prop where
  before : front.getLast?.any isWordChar = false
  behind : back.head?.any isWordChar = false

/-- Behind `front` there is nothing but blanks, pointer signs, reference signs and qualifiers, which
are whole words. -/
inductive DeclaratorRun : (front run : List Char) → Prop where
  | nil {front : List Char} : DeclaratorRun front []
  | blank {front run : List Char} {c : Char} (hc : isBlank c = true)
      (hrun : DeclaratorRun (front ++ [c]) run) : DeclaratorRun front (c :: run)
  | sign {front run : List Char} {c : Char} (hc : c ∈ signs)
      (hrun : DeclaratorRun (front ++ [c]) run) : DeclaratorRun front (c :: run)
  | word {front run : List Char} {word : String} (hword : word ∈ qualifiers)
      (hwhole : IsWholeWord front run) (hrun : DeclaratorRun (front ++ word.toList) run) :
      DeclaratorRun front (word.toList ++ run)

/-- The text ends in a pointer sign, a reference sign or a qualifier that is a whole word. -/
def EndsInDeclarator (s : List Char) : Prop :=
  ∃ front, (∃ c ∈ signs, s = front ++ [c]) ∨
    ∃ word ∈ qualifiers, s = front ++ word.toList ∧ IsWholeWord front []

/-- A sign is neither part of a word nor a blank. -/
theorem sign_apart {c : Char} (h : c ∈ signs) : isWordChar c = false ∧ isBlank c = false := by
  have hall : signs.all (fun c => !isWordChar c && !isBlank c) = true := by decide +kernel
  simpa using List.all_eq_true.mp hall c h

/-- The end of a qualifier is part of its word. -/
theorem getLast?_append_of_mem_qualifiers {word : String} (h : word ∈ qualifiers)
    (front : List Char) : (front ++ word.toList).getLast?.any isWordChar = true := by
  have hends : ∀ word ∈ qualifiers, word.toList.getLast?.any isWordChar = true := by decide
  have hend := hends word h
  cases hc : word.toList.getLast? with
  | none => simp [hc] at hend
  | some c => simpa [hc] using hend

/-- The reader of declarators, which reads from the end of a text. -/
theorem dropDeclarator?_reverse_eq_some_iff {s rest : List Char} :
    dropDeclarator? s.reverse = some rest ↔
      (∃ c ∈ signs, s = rest.reverse ++ [c]) ∨
        ∃ word ∈ qualifiers, s = rest.reverse ++ word.toList ∧ IsWholeWord rest.reverse [] := by
  have hwhole : IsWholeWord rest.reverse [] ↔ rest.head?.any isWordChar = false := by
    rw [← List.getLast?_reverse]
    exact ⟨fun h => h.before, fun h => ⟨h, rfl⟩⟩
  simp [dropDeclarator?_eq_some_iff, List.reverse_eq_iff, hwhole]

theorem dropDeclarator?_reverse_eq_none_iff {s : List Char} :
    dropDeclarator? s.reverse = none ↔ ¬EndsInDeclarator s := by
  simp only [Option.eq_none_iff_forall_ne_some, ne_eq, dropDeclarator?_reverse_eq_some_iff,
    EndsInDeclarator, not_exists]
  exact ⟨fun h front => by simpa using h front.reverse, fun h rest => h rest.reverse⟩

theorem DeclaratorRun.of_blanks {front blanks : List Char}
    (h : ∀ c ∈ blanks, isBlank c = true) : DeclaratorRun front blanks := by
  induction blanks generalizing front with
  | nil => exact .nil
  | cons c blanks ih => exact .blank (h c (by simp)) (ih fun d hd => h d (by simp [hd]))

/-- Runs are put together where no word goes from one to the other. -/
theorem DeclaratorRun.append {front run last : List Char} (hrun : DeclaratorRun front run)
    (hlast : DeclaratorRun (front ++ run) last)
    (hapart : (front ++ run).getLast?.any isWordChar = false ∨
      last.head?.any isWordChar = false) : DeclaratorRun front (run ++ last) := by
  induction hrun with
  | nil => simpa using hlast
  | @blank front run c hc _ ih =>
    simp only [List.append_assoc, List.singleton_append] at ih
    exact .blank hc (ih hlast hapart)
  | @sign front run c hc _ ih =>
    simp only [List.append_assoc, List.singleton_append] at ih
    exact .sign hc (ih hlast hapart)
  | @word front run word hword hwhole _ ih =>
    simp only [List.append_assoc] at ih
    rw [List.append_assoc]
    refine .word hword ⟨hwhole.before, ?_⟩ (ih hlast hapart)
    -- What comes behind the word may change only if nothing was behind it.
    cases run with
    | cons c run => exact hwhole.behind
    | nil =>
      have hend := getLast?_append_of_mem_qualifiers hword front
      rw [List.append_nil, hend] at hapart
      simpa using hapart

/-- A text is what is read of it from the end, with blanks behind. -/
theorem exists_blanks (reversed : List Char) :
    ∃ blanks, reversed.reverse = (trimLeft reversed).reverse ++ blanks ∧
      (∀ c ∈ blanks, isBlank c = true) ∧ blanks.head?.any isWordChar = false := by
  have hall : ∀ c ∈ (reversed.takeWhile isBlank).reverse, isBlank c = true := fun c hc =>
    List.all_eq_true.mp List.all_takeWhile c (List.mem_reverse.mp hc)
  refine ⟨(reversed.takeWhile isBlank).reverse, ?_, hall, ?_⟩
  · rw [← List.reverse_append]
    exact congrArg List.reverse List.takeWhile_append_dropWhile.symm
  · cases hhead : (reversed.takeWhile isBlank).reverse.head? with
    | none => rfl
    | some c => simpa using not_isWordChar_of_isBlank (hall c (List.mem_of_head? hhead))

/-- One step of the reader of declarators: what it takes is a run, and no word goes into it. -/
theorem exists_declaratorRun_of_some {reversed rest : List Char}
    (h : dropDeclarator? (trimLeft reversed) = some rest) :
    ∃ run, reversed.reverse = rest.reverse ++ run ∧ DeclaratorRun rest.reverse run ∧
      (rest.reverse.getLast?.any isWordChar = false ∨ run.head?.any isWordChar = false) := by
  obtain ⟨blanks, htext, hblanks, hword⟩ := exists_blanks reversed
  rw [← List.reverse_reverse (trimLeft reversed), dropDeclarator?_reverse_eq_some_iff] at h
  rcases h with ⟨c, hc, hsplit⟩ | ⟨word, hqualifier, hsplit, hwhole⟩
  · refine ⟨c :: blanks, by simp [htext, hsplit], .sign hc (.of_blanks hblanks), .inr ?_⟩
    exact (sign_apart hc).1
  · refine ⟨word.toList ++ blanks, by simp [htext, hsplit], ?_, .inl hwhole.before⟩
    exact .word hqualifier ⟨hwhole.before, hword⟩ (.of_blanks hblanks)

/-- What is dropped behind a text are declarators. -/
theorem exists_declaratorRun (reversed : List Char) :
    ∃ run, reversed.reverse = (dropDeclarators reversed).reverse ++ run ∧
      DeclaratorRun (dropDeclarators reversed).reverse run := by
  fun_induction dropDeclarators reversed with
  | case1 reversed rest h _ ih =>
    obtain ⟨run, hrest, hrun⟩ := ih
    obtain ⟨last, htext, hlast, hapart⟩ := exists_declaratorRun_of_some h
    rw [hrest] at htext hlast hapart
    exact ⟨run ++ last, by rw [htext, List.append_assoc], hrun.append hlast hapart⟩
  | case2 reversed h =>
    obtain ⟨blanks, htext, hblanks, -⟩ := exists_blanks reversed
    exact ⟨blanks, htext, .of_blanks hblanks⟩

/-- Neither a blank nor a declarator is left behind a text. -/
theorem dropDeclarators_exhausts (reversed : List Char) :
    (dropDeclarators reversed).head?.any isBlank = false ∧
      ¬EndsInDeclarator (dropDeclarators reversed).reverse := by
  fun_induction dropDeclarators reversed with
  | case1 _ _ _ _ ih => exact ih
  | case2 reversed h =>
    refine ⟨head?_trimLeft reversed, dropDeclarator?_reverse_eq_none_iff.mp ?_⟩
    rwa [List.reverse_reverse]

/-- A declarator at the end of a text is dropped; no blank hides it. -/
theorem dropDeclarators_of_dropDeclarator? {s rest : List Char}
    (h : dropDeclarator? s = some rest) : dropDeclarators s = dropDeclarators rest := by
  have hblank : s.head?.any isBlank = false := by
    rcases dropDeclarator?_eq_some_iff.mp h with ⟨c, hc, rfl⟩ | ⟨word, hword, rfl, -⟩
    · simpa using (sign_apart hc).2
    · have hkeywords : ∀ word ∈ qualifiers, word ∈ keywords := by decide
      have hkeyword := hkeywords word hword
      refine head?_append_of_not_isBlank (by simpa using ne_nil_of_mem_keywords hkeyword) ?_ rest
      simpa using not_isBlank_of_mem_keywords hkeyword
  apply dropDeclarators_of_some
  rwa [trimLeft_eq_self hblank]

theorem dropDeclarators_cons_of_isBlank {c : Char} (hc : isBlank c = true) (s : List Char) :
    dropDeclarators (c :: s) = dropDeclarators s := by
  have htrim : trimLeft (c :: s) = trimLeft s := by simp [trimLeft, dropLeft, hc]
  cases h : dropDeclarator? (trimLeft s) with
  | some rest => rw [dropDeclarators_of_some h, dropDeclarators_of_some (htrim ▸ h)]
  | none => rw [dropDeclarators_of_none h, dropDeclarators_of_none (htrim ▸ h), htrim]

/-- All declarators behind a text are dropped. -/
theorem dropDeclarators_append {front run : List Char} (h : DeclaratorRun front run) :
    dropDeclarators (front ++ run).reverse = dropDeclarators front.reverse := by
  -- The run is taken apart from its front, so that its first declarator is dropped last.
  induction h with
  | nil => rw [List.append_nil]
  | @blank front run c hc _ ih =>
    rw [List.append_assoc] at ih
    refine ih.trans ?_
    rw [List.reverse_append]
    exact dropDeclarators_cons_of_isBlank hc _
  | @sign front run c hc _ ih =>
    rw [List.append_assoc] at ih
    refine ih.trans (dropDeclarators_of_dropDeclarator? ?_)
    exact dropDeclarator?_reverse_eq_some_iff.mpr (.inl ⟨c, hc, by simp⟩)
  | @word front run word hword hwhole _ ih =>
    rw [List.append_assoc] at ih
    refine ih.trans (dropDeclarators_of_dropDeclarator? ?_)
    exact dropDeclarator?_reverse_eq_some_iff.mpr
      (.inr ⟨word, hword, by simp, by simpa using hwhole.before, rfl⟩)

/-- A text in front matters only if its end is part of a word. -/
theorem declaratorRun_append_iff {a front run : List Char}
    (ha : a.getLast?.any isWordChar = false) :
    DeclaratorRun (a ++ front) run ↔ DeclaratorRun front run := by
  have hwhole (front run : List Char) : IsWholeWord (a ++ front) run ↔ IsWholeWord front run := by
    have hend : (a ++ front).getLast?.any isWordChar = front.getLast?.any isWordChar := by
      rw [List.getLast?_append]
      cases front.getLast? with
      | none => simpa using ha
      | some c => rfl
    exact ⟨fun h => ⟨hend ▸ h.before, h.behind⟩, fun h => ⟨hend ▸ h.before, h.behind⟩⟩
  constructor
  · intro h
    generalize hf : a ++ front = f at h
    induction h generalizing front with
    | nil => exact .nil
    | blank hc _ ih => exact .blank hc (ih (by simp [← hf]))
    | sign hc _ ih => exact .sign hc (ih (by simp [← hf]))
    | word hword hw _ ih =>
      subst hf
      exact .word hword ((hwhole _ _).mp hw) (ih (by simp))
  · intro h
    induction h with
    | nil => exact .nil
    | blank hc _ ih => exact .blank hc (by simpa using ih)
    | sign hc _ ih => exact .sign hc (by simpa using ih)
    | word hword hw _ ih => exact .word hword ((hwhole _ _).mpr hw) (by simpa using ih)

/-! ## The whole spelling -/

/-- Nothing is to be stripped from the text. -/
structure IsBare (s : List Char) : Prop where
  blank_front : s.head?.any isBlank = false
  blank_back : s.getLast?.any isBlank = false
  keyword : ¬StartsWithKeyword s
  declarator : ¬EndsInDeclarator s

/-- The text `s` consists of keywords `a`, a bare text `r` and declarators `b`. Keywords are read
first, so that `a` has all of them: nothing is left of `struct *`. -/
structure IsStripped (s a r b : List Char) : Prop where
  text : s = a ++ r ++ b
  keywords : KeywordRun a
  declarators : DeclaratorRun (a ++ r) b
  bare : IsBare r
  blank_rest : (r ++ b).head?.any isBlank = false
  keyword_rest : ¬StartsWithKeyword (r ++ b)

theorem exists_isStripped (s : List Char) : ∃ a b, IsStripped (trim s) a (bareChars s) b := by
  obtain ⟨a, htext, ha⟩ := exists_keywordRun (trim s)
  obtain ⟨b, hrest, hb⟩ := exists_declaratorRun (dropKeywords (trim s)).reverse
  obtain ⟨hblank, hdeclarator⟩ := dropDeclarators_exhausts (dropKeywords (trim s)).reverse
  rw [List.reverse_reverse, ← bareChars] at hrest
  rw [← bareChars] at hb hdeclarator
  have hkeyword := not_startsWithKeyword_dropKeywords (trim s)
  have hfront : (dropKeywords (trim s)).head?.any isBlank = false := by
    apply head?_dropKeywords
    rw [← trimLeft_trimRight]
    exact head?_trimLeft _
  rw [hrest] at htext hkeyword hfront
  refine ⟨a, b, ⟨?_, ha, ?_, ⟨?_, ?_, ?_, hdeclarator⟩, hfront, hkeyword⟩⟩
  · rw [htext, List.append_assoc]
  · exact (declaratorRun_append_iff ha.not_isWordChar).mpr hb
  · cases hbare : bareChars s with
    | nil => rfl
    | cons c r => simpa [hbare] using hfront
  · rwa [bareChars, List.getLast?_reverse]
  · exact fun h => hkeyword (h.append b)

theorem IsStripped.eq_bareChars {s a r b : List Char} (h : IsStripped (trim s) a r b) :
    r = bareChars s := by
  have hrun := (declaratorRun_append_iff h.keywords.not_isWordChar).mp h.declarators
  have hnone : dropDeclarator? r.reverse = none :=
    dropDeclarator?_reverse_eq_none_iff.mpr h.bare.declarator
  have htrim : trimLeft r.reverse = r.reverse :=
    trimLeft_eq_self (by rw [List.head?_reverse]; exact h.bare.blank_back)
  calc r = (dropDeclarators r.reverse).reverse := by
        rw [dropDeclarators_of_none (htrim.symm ▸ hnone), htrim, List.reverse_reverse]
    _ = (dropDeclarators (r ++ b).reverse).reverse := by rw [dropDeclarators_append hrun]
    _ = (dropDeclarators (dropKeywords (a ++ (r ++ b))).reverse).reverse := by
        rw [dropKeywords_append_of_keywordRun h.keywords h.blank_rest h.keyword_rest]
    _ = bareChars s := by rw [bareChars, h.text, List.append_assoc]

theorem IsBare.bareChars_eq {r : List Char} (h : IsBare r) : bareChars r = r := by
  have htrim := trim_eq_self h.blank_front h.blank_back
  have hself : IsStripped (trim r) [] r [] := by
    refine ⟨by simp [htrim], .nil, .nil, h, ?_, ?_⟩
    · rw [List.append_nil]
      exact h.blank_front
    · rw [List.append_nil]
      exact h.keyword
  exact hself.eq_bareChars.symm

/-- The bare spelling of a type is what is left of its spelling, without the blanks around it,
between keywords with blanks after them and a run of blanks, pointer signs, reference signs and
whole words `const` and `volatile`. It neither starts with such a keyword nor ends in such a sign or
word and has no blanks around it, and it is the only text for which all this holds. In particular
nothing more is stripped from a bare spelling. -/
theorem bare_eq_iff_isStripped (s r : String) :
    (bare s = r ↔ ∃ a b, IsStripped (trim s.toList) a r.toList b) ∧ bare (bare s) = bare s := by
  have hchars : (bare s).toList = bareChars s.toList := String.toList_ofList
  obtain ⟨a, b, h⟩ := exists_isStripped s.toList
  refine ⟨⟨?_, ?_⟩, ?_⟩
  · rintro rfl
    exact ⟨a, b, hchars ▸ h⟩
  · rintro ⟨a, b, h⟩
    rw [bare, ← h.eq_bareChars, String.ofList_toList]
  · rw [bare, hchars, h.bare.bareChars_eq]
    rfl

example : bare "const struct S *const" = "S" ∧ bare "struct *" = "" := by decide +kernel

end Spelling

end HeaderMock

import HeaderMock.Text.Lines
import Mathlib.Data.List.Infix

/-!
# Lines of composed texts

A text is cut into lines independently before and after the end of a line, so the lines of a file
that is put together from parts are those of its parts. A word without line ends stands in a text
exactly where it stands in one of its lines.

## Main definitions

* `asRead`: a text as it is read back from a file.
* `IsLine`: line ends stand only at the end.
* `EndsLine`: nothing, or a text whose last line has its end.

## Main statements

* `lines_append_of_lineEnd`: the lines of two texts that meet at a line end.
* `infix_of_infix_flatten`: a word in several lines put together stands in one of them.
* `infix_of_infix_unifyNewlines`: no word arises where line ends are unified.
-/

namespace HeaderMock.Text

/-- A text as it is read back from a file, with plain line feeds. -/
def asRead (s : String) : String := String.ofList (unifyNewlines s.toList)

/-! ## Words and what follows them -/

theorem prefix_of_prefix_append_cons {w a b : List Char} {e : Char} (he : e ∉ w)
    (h : w <+: a ++ e :: b) : w <+: a := by
  induction a generalizing w with
  | nil =>
    rcases List.prefix_cons_iff.mp h with rfl | ⟨v, rfl, -⟩
    · exact List.nil_prefix
    · simp at he
  | cons c a ih =>
    rcases List.prefix_cons_iff.mp h with rfl | ⟨v, rfl, hv⟩
    · exact List.nil_prefix
    · simp only [List.mem_cons, not_or] at he
      exact List.cons_prefix_cons.mpr ⟨rfl, ih he.2 hv⟩

/-- A word stands before or after a character that it does not have. -/
theorem infix_append_cons_iff {w a b : List Char} {e : Char} (he : e ∉ w) :
    w <:+: a ++ e :: b ↔ w <:+: a ∨ w <:+: b := by
  constructor
  · intro h
    induction a with
    | nil =>
      rcases List.infix_cons_iff.mp h with h | h
      · exact .inl (prefix_of_prefix_append_cons he h).isInfix
      · exact .inr h
    | cons c a ih =>
      rcases List.infix_cons_iff.mp h with h | h
      · exact .inl (prefix_of_prefix_append_cons he h).isInfix
      · exact (ih h).imp_left fun h => List.infix_cons_iff.mpr (.inr h)
  · rintro (h | h)
    · exact h.trans (List.prefix_append ..).isInfix
    · exact h.trans ((List.suffix_cons e b).trans (List.suffix_append ..)).isInfix

/-! ## Cutting at line ends -/

@[simp, grind =] theorem lines_nil : lines [] = [] := rfl

@[simp, grind =] theorem lines_pair (r : List Char) :
    lines ('\r' :: '\n' :: r) = ['\r', '\n'] :: lines r := rfl

theorem lines_cons {c : Char} {r : List Char} (hr : c = '\r' → r.head? ≠ some '\n') :
    lines (c :: r) =
      if isLineEnd c then [c] :: lines r
      else
        match lines r with
        | [] => [[c]]
        | line :: rest => (c :: line) :: rest := by
  rw [lines.eq_def (c :: r)]
  split
  · next heq => simp at heq
  · next heq => simp_all
  · next heq =>
    obtain ⟨rfl, rfl⟩ := List.cons.inj heq
    rfl

theorem lines_cons_of_lineEnd {c : Char} {r : List Char} (hc : isLineEnd c = true)
    (hr : c = '\r' → r.head? ≠ some '\n') : lines (c :: r) = [c] :: lines r := by
  rw [lines_cons hr, if_pos hc]

theorem lines_ne_nil {s : List Char} (h : s ≠ []) : lines s ≠ [] := by
  intro hl
  have := flatten_lines s
  simp [hl, eq_comm, h] at this

theorem lines_cons_of_not_lineEnd {c : Char} {r line : List Char} {rest : List (List Char)}
    (hc : isLineEnd c = false) (hr : lines r = line :: rest) :
    lines (c :: r) = (c :: line) :: rest := by
  have hreturn : c ≠ '\r' := by
    rintro rfl
    simp [isLineEnd] at hc
  rw [lines_cons fun h => absurd h hreturn, if_neg (by simp [hc]), hr]

/-- The lines of two texts that meet at a line end, unless it is the middle of a pair of carriage
return and line feed. -/
theorem lines_append_of_lineEnd {e : Char} (he : isLineEnd e = true) {b : List Char}
    (hb : e = '\r' → b.head? ≠ some '\n') (a : List Char) :
    lines (a ++ e :: b) = lines (a ++ [e]) ++ lines b := by
  fun_induction lines a with
  | case1 =>
    rw [List.nil_append, List.nil_append, lines_cons_of_lineEnd he hb,
      lines_cons_of_lineEnd he (by simp)]
    simp
  | case2 r ih => simp [ih]
  | case3 c r hcut hc ih =>
    by_cases hpair : r = [] ∧ c = '\r' ∧ e = '\n'
    · obtain ⟨rfl, rfl, rfl⟩ := hpair
      simp
    · have hnext : ∀ t, c = '\r' → (r ++ e :: t).head? ≠ some '\n' := by
        cases r with
        | nil => simpa using hpair
        | cons d r =>
          rintro t rfl h
          exact hcut r rfl (by simpa using h)
      rw [List.cons_append, List.cons_append, lines_cons_of_lineEnd hc (hnext _),
        lines_cons_of_lineEnd hc (hnext _), ih, List.cons_append]
  | case4 c r _ hc _ ih | case5 c r _ hc _ _ _ ih =>
    obtain ⟨line, rest, hl⟩ := List.exists_cons_of_ne_nil (lines_ne_nil (s := r ++ [e]) (by simp))
    have hc : isLineEnd c = false := by simpa using hc
    rw [hl, List.cons_append] at ih
    rw [List.cons_append, List.cons_append, lines_cons_of_not_lineEnd hc ih,
      lines_cons_of_not_lineEnd hc hl, List.cons_append]

/-- The first line of a text. -/
theorem lines_append_lineFeed {l : List Char} (hl : ∀ c ∈ l, isLineEnd c = false) (b : List Char) :
    lines (l ++ '\n' :: b) = (l ++ ['\n']) :: lines b := by
  induction l with
  | nil => exact lines_cons_of_lineEnd rfl (by simp)
  | cons c l ih =>
    exact lines_cons_of_not_lineEnd (hl c (by simp)) (ih fun d hd => hl d (by simp [hd]))

/-! ## The shape of a line -/

/-- Line ends stand only at the end. -/
def IsLine (l : List Char) : Prop :=
  ∃ body tail, l = body ++ tail ∧ (∀ c ∈ body, isLineEnd c = false) ∧
    ∀ c ∈ tail, isLineEnd c = true

/-- Nothing, or a text whose last line has its end. -/
def EndsLine (s : List Char) : Prop := ∀ c, s.getLast? = some c → isLineEnd c = true

theorem endsLine_of_getLast? {s : List Char} (h : s.getLast? = some '\n') : EndsLine s := by
  intro c hc
  obtain rfl : '\n' = c := Option.some.inj (h.symm.trans hc)
  rfl

/-- The lines of two texts, where the first one ends with a line and no pair of carriage return and
line feed is formed. -/
theorem lines_append {a b : List Char} (ha : EndsLine a)
    (hab : a.getLast? = some '\r' → b.head? ≠ some '\n') : lines (a ++ b) = lines a ++ lines b := by
  rcases List.eq_nil_or_concat a with rfl | ⟨x, e, rfl⟩
  · simp
  · have he : isLineEnd e = true := ha e (by simp)
    rw [List.concat_eq_append, List.append_assoc, List.singleton_append]
    exact lines_append_of_lineEnd he (fun h => hab (by simp [h])) x

theorem endsLine_flatten {ls : List (List Char)} (h : ∀ l ∈ ls, EndsLine l) :
    EndsLine ls.flatten := by
  induction ls with
  | nil => simp [EndsLine]
  | cons l ls ih =>
    intro c hc
    rw [List.flatten_cons, List.getLast?_append] at hc
    cases hr : ls.flatten.getLast? with
    | none => exact h l (by simp) c (by simpa [hr] using hc)
    | some d =>
      obtain rfl : d = c := by simpa [hr] using hc
      exact ih (fun l' hl' => h l' (by simp [hl'])) d hr

theorem isLine_of_mem_lines {s l : List Char} (h : l ∈ lines s) : IsLine l := by
  fun_induction lines s generalizing l with
  | case1 => simp at h
  | case2 r ih =>
    rcases List.mem_cons.mp h with rfl | h
    · exact ⟨[], ['\r', '\n'], rfl, by simp, by simp [isLineEnd]⟩
    · exact ih h
  | case3 c r _ hc ih =>
    rcases List.mem_cons.mp h with rfl | h
    · exact ⟨[], [c], rfl, by simp, by simp [hc]⟩
    · exact ih h
  | case4 c r _ hc _ _ =>
    obtain rfl : l = [c] := by simpa using h
    exact ⟨[c], [], rfl, by simpa using hc, by simp⟩
  | case5 c r _ hc line rest hr ih =>
    rcases List.mem_cons.mp h with rfl | h
    · obtain ⟨body, tail, rfl, hbody, htail⟩ := ih (l := line) (by simp [hr])
      exact ⟨c :: body, tail, rfl, by simpa [hc] using hbody, htail⟩
    · exact ih (by simp [hr, h])

/-- All lines but the last one have their ends. -/
theorem endsLine_of_mem_dropLast_lines {s l : List Char} (h : l ∈ (lines s).dropLast) :
    l ≠ [] ∧ EndsLine l := by
  fun_induction lines s generalizing l with
  | case1 => simp at h
  | case2 r ih =>
    cases hr : lines r with
    | nil => simp [hr] at h
    | cons line rest =>
      rw [hr, List.dropLast_cons_cons, ← hr] at h
      rcases List.mem_cons.mp h with rfl | h
      · simp [EndsLine, isLineEnd]
      · exact ih h
  | case3 c r _ hc ih =>
    cases hr : lines r with
    | nil => simp [hr] at h
    | cons line rest =>
      rw [hr, List.dropLast_cons_cons, ← hr] at h
      rcases List.mem_cons.mp h with rfl | h
      · simpa [EndsLine] using hc
      · exact ih h
  | case4 => simp at h
  | case5 c r _ _ line rest hr ih =>
    cases rest with
    | nil => simp at h
    | cons line' rest =>
      rw [List.dropLast_cons_cons] at h
      rw [hr, List.dropLast_cons_cons] at ih
      rcases List.mem_cons.mp h with rfl | h
      · obtain ⟨hne, hend⟩ := ih (l := line) (by simp)
        refine ⟨by simp, fun d hd => hend d ?_⟩
        rwa [List.getLast?_cons_of_ne_nil hne] at hd
      · exact ih (by simp [h])

/-- A word in a line has no line ends if its last character is none. -/
theorem IsLine.forall_of_infix {l w : List Char} {c : Char} (hl : IsLine l) (h : w ++ [c] <:+: l)
    (hc : isLineEnd c = false) : ∀ d ∈ w ++ [c], isLineEnd d = false := by
  obtain ⟨body, tail, rfl, hbody, htail⟩ := hl
  have hctail : c ∉ tail := fun hmem => by simp [htail c hmem] at hc
  rcases List.infix_append_iff.mp h with h | h | ⟨w₁, w₂, hw, h₁, h₂⟩
  · exact fun d hd => hbody d (h.subset hd)
  · exact absurd (h.subset (by simp)) hctail
  · rcases List.eq_nil_or_concat w₂ with rfl | ⟨v, d, rfl⟩
    · rw [hw, List.append_nil]
      exact fun d hd => hbody d (h₁.subset hd)
    · obtain rfl : c = d := by simpa using congrArg List.getLast? hw
      exact absurd (h₂.subset (by simp)) hctail

/-- A word without line ends that stands in several lines put together stands in one of them. -/
theorem infix_of_infix_flatten {w : List Char} {ls : List (List Char)} (hne : w ≠ [])
    (hw : ∀ c ∈ w, isLineEnd c = false) (hls : ∀ l ∈ ls, EndsLine l) (h : w <:+: ls.flatten) :
    ∃ l ∈ ls, w <:+: l := by
  induction ls with
  | nil => exact absurd (List.infix_nil.mp h) hne
  | cons l ls ih =>
    have hrest : w <:+: ls.flatten → ∃ l' ∈ l :: ls, w <:+: l' := fun h => by
      obtain ⟨l', hl', hw'⟩ := ih (fun l' hl' => hls l' (by simp [hl'])) h
      exact ⟨l', by simp [hl'], hw'⟩
    rcases List.eq_nil_or_concat l with rfl | ⟨a, e, rfl⟩
    · exact hrest (by simpa using h)
    · have he : isLineEnd e = true := hls (a.concat e) (by simp) e (by simp)
      have hew : e ∉ w := fun hmem => by simp [hw e hmem] at he
      rw [List.flatten_cons, List.concat_eq_append, List.append_assoc, List.singleton_append,
        infix_append_cons_iff hew] at h
      rcases h with h | h
      · exact ⟨a.concat e, by simp, by simpa using h.trans (List.prefix_append a [e]).isInfix⟩
      · exact hrest h

theorem infix_of_mem_lines {s l : List Char} (h : l ∈ lines s) : l <:+: s := by
  have := List.infix_of_mem_flatten h
  rwa [flatten_lines] at this

/-! ## Unified line ends -/

theorem prefix_of_prefix_unifyNewlines {w s : List Char} (hcr : '\r' ∉ w) (hlf : '\n' ∉ w)
    (h : w <+: unifyNewlines s) : w <+: s := by
  fun_induction unifyNewlines s generalizing w with
  | case1 => exact h
  | case2 r ih =>
    rcases List.prefix_cons_iff.mp h with rfl | ⟨v, rfl, -⟩
    · exact List.nil_prefix
    · simp at hlf
  | case3 c r _ ih =>
    rcases List.prefix_cons_iff.mp h with rfl | ⟨v, rfl, hv⟩
    · exact List.nil_prefix
    · simp only [List.mem_cons, not_or] at hcr hlf
      have hc : c ≠ '\r' := by
        rintro rfl
        simp at hlf
      rw [if_neg hc]
      exact List.cons_prefix_cons.mpr ⟨rfl, ih hcr.2 hlf.2 hv⟩

/-- No word arises where line ends are unified. -/
theorem infix_of_infix_unifyNewlines {w s : List Char} (hcr : '\r' ∉ w) (hlf : '\n' ∉ w)
    (h : w <:+: unifyNewlines s) : w <:+: s := by
  have hp := fun s => prefix_of_prefix_unifyNewlines (s := s) hcr hlf
  fun_induction unifyNewlines s with
  | case1 => exact h
  | case2 r ih =>
    rcases (infix_append_cons_iff (a := []) hlf).mp h with h | h
    · rw [List.infix_nil.mp h]
      exact List.nil_infix
    · exact (ih h).trans (List.suffix_append ['\r', '\n'] r).isInfix
  | case3 c r hcut ih =>
    rcases List.infix_cons_iff.mp h with h | h
    · exact (hp (c :: r) (by rwa [unifyNewlines]; exact hcut)).isInfix
    · exact (ih h).trans (List.suffix_cons c r).isInfix

theorem unifyNewlines_of_notMem {s : List Char} (h : '\r' ∉ s) : unifyNewlines s = s := by
  fun_induction unifyNewlines s with
  | case1 => rfl
  | case2 r _ => simp at h
  | case3 c r _ ih =>
    simp only [List.mem_cons, not_or] at h
    rw [if_neg (Ne.symm h.1), ih h.2]

theorem notMem_unifyNewlines (s : List Char) : '\r' ∉ unifyNewlines s := by
  fun_induction unifyNewlines s with
  | case1 => simp
  | case2 r ih => simpa using ih
  | case3 c r _ ih =>
    by_cases hc : c = '\r'
    · simpa [hc] using ih
    · simpa [hc, eq_comm] using ih

theorem unifyNewlines_cons {c : Char} {r : List Char} (h : c = '\r' → r.head? ≠ some '\n') :
    unifyNewlines (c :: r) = (if c = '\r' then '\n' else c) :: unifyNewlines r := by
  rw [unifyNewlines]
  rintro t rfl rfl
  exact h rfl rfl

/-- Two texts that meet at a line feed are unified one by one. -/
theorem unifyNewlines_append_lineFeed (a b : List Char) :
    unifyNewlines (a ++ '\n' :: b) = unifyNewlines (a ++ ['\n']) ++ unifyNewlines b := by
  fun_induction unifyNewlines a with
  | case1 => simp [unifyNewlines]
  | case2 r ih => simp [unifyNewlines, ih]
  | case3 c r hcut ih =>
    by_cases hpair : r = [] ∧ c = '\r'
    · obtain ⟨rfl, rfl⟩ := hpair
      simp [unifyNewlines]
    · have hnext : ∀ t, c = '\r' → (r ++ '\n' :: t).head? ≠ some '\n' := by
        cases r with
        | nil => simpa using hpair
        | cons d r =>
          rintro t rfl h
          exact hcut r rfl (by simpa using h)
      rw [List.cons_append, List.cons_append, unifyNewlines_cons (hnext _),
        unifyNewlines_cons (hnext _), ih, List.cons_append]

theorem unifyNewlines_append {a : List Char} (h : a.getLast? = some '\n') (b : List Char) :
    unifyNewlines (a ++ b) = unifyNewlines a ++ unifyNewlines b := by
  obtain ⟨x, rfl⟩ := List.getLast?_eq_some_iff.mp h
  rw [List.append_assoc, List.singleton_append]
  exact unifyNewlines_append_lineFeed x b

theorem unifyNewlines_line {l : List Char} (h : '\r' ∉ l) (b : List Char) :
    unifyNewlines (l ++ '\n' :: b) = l ++ '\n' :: unifyNewlines b := by
  rw [unifyNewlines_append_lineFeed, unifyNewlines_of_notMem (by simpa using h), List.append_assoc,
    List.singleton_append]

theorem getLast?_unifyNewlines {s : List Char} (h : s.getLast? = some '\n') :
    (unifyNewlines s).getLast? = some '\n' := by
  fun_induction unifyNewlines s with
  | case1 => simp at h
  | case2 r ih =>
    cases r with
    | nil => rfl
    | cons d r => simp [List.getLast?_cons, ih (by simpa [List.getLast?_cons] using h)]
  | case3 c r _ ih =>
    cases r with
    | nil =>
      obtain rfl : c = '\n' := by simpa using h
      rfl
    | cons d r => simp [List.getLast?_cons, ih (by simpa [List.getLast?_cons] using h)]

end HeaderMock.Text

import HeaderMock.ShellWords
import HeaderMock.Proofs.Sequencing

/-!
# Quoting and splitting

Arguments that are quoted and joined by spaces are split into the same arguments again, whatever
characters they hold.

## Main statements

* `ShellWords.read_quote`: a quoted argument is read as one word, whatever follows it.
* `ShellWords.split_quoted`: splitting inverts quoting.
-/

namespace HeaderMock.ShellWords

/-- A plain character is neither a separator nor a sign of quoting. -/
theorem not_special_of_isPlain {c : Char} (h : isPlain c = true) :
    isSeparator c = false ∧ c ≠ '\\' ∧ ¬(c = '\'' ∨ c = '"') := by
  have ne : ∀ d, isPlain d = false → c ≠ d := by
    rintro d hd rfl
    simp [h] at hd
  refine ⟨?_, ne _ (by decide), ?_⟩
  · rw [Bool.eq_false_iff]
    intro hs
    simp only [isSeparator, Bool.or_eq_true, beq_iff_eq] at hs
    rcases hs with ((rfl | rfl) | rfl) | rfl <;> exact absurd h (by decide)
  · rintro (rfl | rfl) <;> exact absurd h (by decide)

theorem read_word_plain {s : List Char} (hs : ∀ c ∈ s, isPlain c = true) (acc rest : List Char) :
    read .word acc (s ++ rest) = read .word (s.reverse ++ acc) rest := by
  induction s generalizing acc with
  | nil => rfl
  | cons c s ih =>
    obtain ⟨hsep, hescape, hquote⟩ := not_special_of_isPlain (hs c (by simp))
    rw [List.cons_append, read, hsep, if_neg (by simp), if_neg hescape, if_neg hquote,
      ih fun d hd => hs d (by simp [hd])]
    simp

/-- The quotes are closed, one stands between double quotes, and they are opened again. -/
theorem read_escapedQuote (acc rest : List Char) :
    read (.quoted '\'') acc ("'\"'\"'".toList ++ rest) =
      read (.quoted '\'') ('\'' :: acc) rest := by
  simp [read, isSeparator]

theorem read_word_space (acc rest : List Char) :
    read .word acc (' ' :: rest) = (read .gap [] rest).map (acc.reverse :: ·) := by
  simp [read, isSeparator]

/-- Between single quotes everything is kept up to the closing one. -/
theorem read_quoted (s acc rest : List Char) :
    read (.quoted '\'') acc
        (s.flatMap (fun c => if c = '\'' then "'\"'\"'".toList else [c]) ++ '\'' :: rest) =
      read .word (s.reverse ++ acc) rest := by
  induction s generalizing acc with
  | nil => simp [read]
  | cons c s ih =>
    rw [List.flatMap_cons, List.append_assoc]
    by_cases hc : c = '\''
    · subst hc
      rw [if_pos rfl, read_escapedQuote, ih]
      simp
    · rw [if_neg hc, List.singleton_append, read, if_neg hc, if_neg (by simp), ih]
      simp

/-- A quoted argument is read as one word, whatever follows it. -/
@[simp, grind =] theorem read_quote (s : String) (acc rest : List Char) :
    read .gap acc ((quote s).toList ++ rest) = read .word s.toList.reverse rest := by
  unfold quote
  split
  · next h =>
    obtain ⟨hne, hplain⟩ := h
    obtain ⟨c, r, hs⟩ := List.exists_cons_of_ne_nil hne
    have hall : ∀ d ∈ c :: r, isPlain d = true := by
      rw [← hs]
      simpa using hplain
    obtain ⟨hsep, hescape, hquote⟩ := not_special_of_isPlain (hall c (by simp))
    rw [hs, List.cons_append, read, hsep, if_neg (by simp), if_neg hescape, if_neg hquote,
      read_word_plain fun d hd => hall d (by simp [hd])]
    simp
  · rw [String.toList_ofList, quoteChars, List.append_assoc, List.cons_append,
      List.singleton_append, read, if_neg (by decide), if_neg (by decide), if_pos (by simp),
      read_quoted, List.append_nil]

/-- Splitting inverts quoting. -/
@[simp, grind =] theorem split_quoted (ws : List String) :
    split (String.intercalate " " (ws.map quote)) = .ok ws := by
  have hread : read .gap [] (String.intercalate " " (ws.map quote)).toList =
      .ok (ws.map String.toList) := by
    induction ws with
    | nil => rfl
    | cons w ws ih =>
      cases ws with
      | nil =>
        have := read_quote w [] []
        rw [List.append_nil] at this
        simp [this, read]
      | cons w' ws =>
        rw [List.map_cons, List.map_cons, String.intercalate_cons_cons, String.append_assoc,
          String.toList_append, read_quote, String.toList_append, show " ".toList = [' '] from rfl,
          List.singleton_append, read_word_space, ← List.map_cons, ih]
        simp
  rw [split, hread]
  simp [Function.comp_def]

end HeaderMock.ShellWords

import HeaderMock.Output.Banner
import HeaderMock.Proofs.Text.Lines

/-!
# Options in banners

The options that a banner records are read back from every file that starts with the banner. The
search ends inside the banner, so what follows it does not matter.

## Main definitions

* `Text.unlines`: lines, each with a line feed at its end.
* `Banner.parts`: the lines of a banner.

## Main statements

* `Banner.render_eq_unlines`: a banner is made of its lines.
* `Banner.options?_render_append`: the options of a file that starts with a banner.
-/

namespace HeaderMock

namespace Text

/-- Lines, each with a line feed at its end. -/
def unlines : List String → String
  | [] => ""
  | l :: ls => l ++ "\n" ++ unlines ls

@[grind =] theorem toList_unlines_cons (l : String) (ls : List String) :
    (unlines (l :: ls)).toList = l.toList ++ '\n' :: (unlines ls).toList := by
  simp [unlines]

theorem unlines_append (ls ls' : List String) :
    unlines (ls ++ ls') = unlines ls ++ unlines ls' := by
  induction ls with
  | nil => simp [unlines]
  | cons l ls ih => simp [unlines, ih, String.append_assoc]

theorem getLast?_unlines {ls : List String} (h : ls ≠ []) :
    (unlines ls).toList.getLast? = some '\n' := by
  induction ls with
  | nil => exact absurd rfl h
  | cons l ls ih =>
    cases ls with
    | nil => simp [unlines]
    | cons l' ls => simp [toList_unlines_cons l, List.getLast?_cons, ih (by simp)]

/-- Whether texts have line ends can be computed. -/
theorem forall_isLineEnd_of_all {ls : List String}
    (h : ls.all (fun l => l.toList.all fun c => !isLineEnd c) = true) :
    ∀ l ∈ ls, ∀ c ∈ l.toList, isLineEnd c = false := by
  simpa using h

/-- Lines that are written are read back as they are. -/
theorem lines_unlines_append {ls : List String}
    (h : ∀ l ∈ ls, ∀ c ∈ l.toList, isLineEnd c = false) (rest : List Char) :
    lines ((unlines ls).toList ++ rest) = ls.map (fun l => l.toList ++ ['\n']) ++ lines rest := by
  induction ls with
  | nil => simp [unlines]
  | cons l ls ih =>
    rw [toList_unlines_cons, List.append_assoc, List.cons_append,
      lines_append_lineFeed (h l (by simp)), ih fun l' hl' => h l' (by simp [hl'])]
    rfl

/-- A word without line feeds that stands in written lines stands in one of them. -/
theorem infix_unlines_iff {w : List Char} (hne : w ≠ []) (hw : '\n' ∉ w) {ls : List String} :
    w <:+: (unlines ls).toList ↔ ∃ l ∈ ls, w <:+: l.toList := by
  induction ls with
  | nil => simp [unlines, hne]
  | cons l ls ih => simp [toList_unlines_cons, infix_append_cons_iff hw, ih]

theorem asRead_unlines_append {ls : List String} (h : ∀ l ∈ ls, '\r' ∉ l.toList) (rest : String) :
    asRead (unlines ls ++ rest) = unlines ls ++ asRead rest := by
  induction ls with
  | nil => simp [unlines]
  | cons l ls ih =>
    have hrest := congrArg String.toList (ih fun l' hl' => h l' (by simp [hl']))
    simp only [asRead, String.toList_append, String.toList_ofList] at hrest
    apply String.toList_injective
    simp only [asRead, String.toList_append, toList_unlines_cons, String.toList_ofList,
      List.append_assoc, List.cons_append]
    rw [unifyNewlines_line (h l (by simp)), hrest]

theorem lineBody_cons {c : Char} {r : List Char} (hc : c ≠ '\r') (hr : r ≠ []) :
    lineBody (c :: r) = c :: lineBody r := by
  rw [lineBody.eq_def (c :: r)]
  split <;> simp_all

theorem lineBody_append_lineFeed {l : List Char} (h : ∀ c ∈ l, isLineEnd c = false) :
    lineBody (l ++ ['\n']) = l := by
  induction l with
  | nil => rfl
  | cons c l ih =>
    have hc : c ≠ '\r' := by
      rintro rfl
      exact absurd (h '\r' (by simp)) (by decide)
    rw [List.cons_append, lineBody_cons hc (by simp), ih fun d hd => h d (by simp [hd])]

end Text

namespace Banner

open Text

/-- The lines above the options. -/
def heading : List String :=
  ["/*", " * This file has been auto-generated by CppUMockGen v" ++ version ++ ".", " *",
    " * Contents will NOT be preserved if it is regenerated!!!"]

/-- The lines of a banner. -/
def parts (options : String) : List String :=
  heading ++ (if options = "" then [] else [" *", optionsMark ++ options]) ++ [" */", ""]

theorem render_eq_unlines (options : String) : render options = unlines (parts options) := by
  unfold render parts
  split
  · rfl
  · show unlines heading ++ (" *\n" ++ optionsMark ++ options ++ "\n") ++ " */\n\n" = _
    simp [unlines_append, unlines, String.append_assoc]

@[simp, grind =] theorem getLast?_render (options : String) :
    (render options).toList.getLast? = some '\n' := by
  rw [render_eq_unlines]
  exact getLast?_unlines (by simp [parts])

theorem isLineEnd_of_mem_parts {options : String}
    (h : ∀ c ∈ options.toList, isLineEnd c = false) :
    ∀ l ∈ parts options, ∀ c ∈ l.toList, isLineEnd c = false := by
  have hfixed : ∀ l ∈ heading ++ [" *", " */", ""], ∀ c ∈ l.toList, isLineEnd c = false :=
    forall_isLineEnd_of_all (by decide)
  have hmark : ∀ c ∈ optionsMark.toList, isLineEnd c = false :=
    forall_isLineEnd_of_all (show [optionsMark].all _ = true by decide) _ (by simp)
  intro l hl c hc
  simp only [parts, List.mem_append] at hl
  rcases hl with (hl | hl) | hl
  · exact hfixed l (by simp [hl]) c hc
  · split at hl
    · simp at hl
    · simp only [List.mem_cons, List.not_mem_nil, or_false] at hl
      rcases hl with rfl | rfl
      · exact hfixed _ (by simp) c hc
      · rw [String.toList_append] at hc
        exact (List.mem_append.mp hc).elim (hmark c) (h c)
  · exact hfixed l (by simp_all) c hc

/-- Lines that neither record options nor end a comment are passed over. -/
theorem optionsIn_append {ls rest : List (List Char)}
    (h : ∀ l ∈ ls, dropStart? optionsMark.toList l = none ∧ dropStart? " */".toList l = none) :
    optionsIn (ls ++ rest) = optionsIn rest := by
  induction ls with
  | nil => rfl
  | cons l ls ih =>
    obtain ⟨hl, hl'⟩ := h l (by simp)
    simp only [List.cons_append, optionsIn, hl, hl', Option.isSome_none, Bool.false_eq_true,
      if_false]
    exact ih fun l' hmem => h l' (by simp [hmem])

theorem optionsIn_parts (options : String) (rest : List (List Char)) :
    optionsIn ((parts options).map String.toList ++ rest) =
      if options = "" then none else some options.toList := by
  have hfixed : ∀ l ∈ (heading ++ [" *"]).map String.toList,
      dropStart? optionsMark.toList l = none ∧ dropStart? " */".toList l = none := by
    decide
  have hend : dropStart? optionsMark.toList " */".toList = none ∧
      (dropStart? " */".toList " */".toList).isSome = true := by
    decide
  unfold parts
  split
  · rw [List.append_nil, List.map_append, List.append_assoc,
      optionsIn_append fun l hl => hfixed l (by simp_all)]
    simp only [List.map_cons, List.cons_append, optionsIn, hend.1, hend.2, if_true]
  · rw [← List.singleton_append, ← List.append_assoc, List.append_assoc, List.map_append,
      List.append_assoc, optionsIn_append hfixed]
    simp [optionsIn, dropStart?_eq_some_iff.mpr]

/-- The options of a file that starts with a banner. -/
theorem options?_render_append {options : String} (h : ∀ c ∈ options.toList, isLineEnd c = false)
    (rest : String) :
    options? (render options ++ rest) = if options = "" then none else some options := by
  have hparts := isLineEnd_of_mem_parts h
  have hbodies : ((parts options).map fun l => lineBody (l.toList ++ ['\n'])) =
      (parts options).map String.toList :=
    List.map_congr_left fun l hl => lineBody_append_lineFeed (hparts l hl)
  rw [options?, String.toList_append, render_eq_unlines, lines_unlines_append hparts,
    List.map_append, List.map_map, Function.comp_def, hbodies, optionsIn_parts]
  split <;> simp

/-- The options are the same when the file is read back. -/
theorem asRead_render_append {options : String} (h : ∀ c ∈ options.toList, isLineEnd c = false)
    (rest : String) : asRead (render options ++ rest) = render options ++ asRead rest := by
  rw [render_eq_unlines]
  refine asRead_unlines_append (fun l hl hmem => ?_) rest
  exact absurd (isLineEnd_of_mem_parts h l hl '\r' hmem) (by decide)

end Banner

end HeaderMock

import HeaderMock.Proofs.Generate.Reference

/-!
# Declarations and the code emitted for them

The code of a unit, declaration by declaration: which declarations a run gets to, and the code that
each of them gets on its own. A run ends without a fault exactly when each of these declarations
does, and then the code of the unit is what they get, in their order.

## Main definitions

* `Site.code?`: the code for a declaration, if there is any.
* `SourceUnit.emitted`: the declarations with code, and their code.

## Main statements

* `result_entriesFrom`: a run, without what it has seen on its way.
* `SourceUnit.generate_eq_ok_iff`: when a unit has code, and which.
* `SourceUnit.pairwise_entity_emitted`: no entity gets code twice.
-/

namespace HeaderMock

/-! ## Runs -/

/-- A run goes through the declarations that it gets to, one after another, and keeps their code. -/
theorem result_entriesFrom (cfg : Config) (seen : List String) (sites : List Site) :
    (entriesFrom cfg seen sites).result =
      ((Site.firstMockable seen sites).mapM fun s : Site => (s.entry? cfg).result).map
        (·.filterMap id) := by
  fun_induction entriesFrom cfg seen sites with
  | case1 => rfl
  | case2 seen s rest hm ih =>
    rw [Site.firstMockable_cons_of_not_mockable (by simpa using hm),
      Report.result_bind_ok (Report.result_emit _), ih]
  | case3 seen s rest hm hseen ih =>
    rw [Site.firstMockable_cons_of_seen (by simpa using hm) (by simpa using hseen), ih]
  | case4 seen s rest hm hseen ih =>
    rw [Site.firstMockable_cons_of_not_seen (by simpa using hm) (by simpa using hseen),
      List.mapM_cons, Report.result_bind]
    cases (s.entry? cfg).result with
    | error fault => rfl
    | ok code? =>
      show ((entriesFrom cfg (s.info.entity :: seen) rest) >>= _).result = _
      rw [Report.result_bind, ih]
      cases (Site.firstMockable (s.info.entity :: seen) rest).mapM
        fun s => (s.entry? cfg).result with
      | error fault => rfl
      | ok codes => cases code? <;> rfl

/-- A sequence of computations ends in a value exactly when each of them does, and then the values
that are there are those of the single computations. -/
theorem mapM_filterMap_eq_ok_iff {ε α β : Type} {f : α → Except ε (Option β)} {as : List α}
    {bs : List β} :
    (as.mapM f).map (·.filterMap id) = .ok bs ↔
      (∀ a ∈ as, ∃ b, f a = .ok b) ∧ bs = as.filterMap fun a => (f a).toOption.join := by
  induction as generalizing bs with
  | nil => simp [pure, Except.pure, Except.map, eq_comm]
  | cons a as ih =>
    rw [List.mapM_cons]
    cases ha : f a with
    | error e => simp [ha]
    | ok b =>
      have step : ((Except.ok b : Except ε (Option β)) >>= fun b =>
          as.mapM f >>= fun bs => pure (b :: bs)).map (·.filterMap id) =
            ((as.mapM f).map (·.filterMap id)).map (b.toList ++ ·) := by
        cases as.mapM f <;> cases b <;> rfl
      have hhead : (a :: as).filterMap (fun a => (f a).toOption.join) =
          b.toList ++ as.filterMap fun a => (f a).toOption.join := by
        cases b <;> simp [ha, Except.toOption]
      rw [step, map_eq_ok_iff, hhead]
      simp only [ih, List.forall_mem_cons, ha]
      constructor
      · rintro ⟨_, ⟨hall, rfl⟩, rfl⟩
        exact ⟨⟨⟨b, rfl⟩, hall⟩, rfl⟩
      · rintro ⟨⟨-, hall⟩, rfl⟩
        exact ⟨_, ⟨hall, rfl⟩, rfl⟩

/-! ## Members of one entity -/

section Firsts

variable {α κ : Type} [DecidableEq κ] {key : α → κ} {seen : List κ} {a : α} {l : List α}

theorem mem_of_mem_firsts (h : a ∈ firsts key seen l) : a ∈ l ∧ key a ∉ seen := by
  simp only [firsts, List.mem_map, List.mem_filter, decide_eq_true_eq, Prod.exists] at h
  obtain ⟨x, i, ⟨hmem, hseen, -⟩, rfl⟩ := h
  exact ⟨(List.mem_zipIdx' hmem).2 ▸ List.getElem_mem _, hseen⟩

theorem pairwise_firsts : (firsts key seen l).Pairwise (key · ≠ key ·) := by
  induction l generalizing seen with
  | nil => exact .nil
  | cons a l ih =>
    by_cases h : key a ∈ seen
    · rw [firsts_cons_of_mem h]
      exact ih
    · rw [firsts_cons_of_not_mem h]
      refine .cons (fun b hb heq => (mem_of_mem_firsts hb).2 ?_) ih
      simp [heq]

end Firsts

/-! ## Units -/

/-- The code for a declaration, if there is any. -/
def Site.code? (s : Site) (cfg : Config) : Option Entry := (s.entry? cfg).result.toOption.join

theorem Site.code?_eq_some_iff {s : Site} {cfg : Config} {e : Entry} :
    s.code? cfg = some e ↔ ∃ sig, (s.signature cfg).result = .ok sig ∧ sig.entry = .ok e := by
  constructor
  · intro h
    obtain ⟨code?, hcode, rfl⟩ : ∃ code?, (s.entry? cfg).result = .ok code? ∧ code? = some e := by
      unfold code? at h
      cases hr : (s.entry? cfg).result with
      | error fault => simp [hr, Except.toOption] at h
      | ok code? => exact ⟨code?, rfl, by simpa [hr, Except.toOption] using h⟩
    rcases Site.entry?_eq_ok hcode with ⟨sig, e', hsig, he, heq⟩ | ⟨_, _, -, heq⟩
    · exact ⟨sig, hsig, Option.some.inj heq ▸ he⟩
    · cases heq
  · rintro ⟨sig, hsig, he⟩
    simp [code?, entry?_of_ok hsig, he, Except.toOption]

namespace SourceUnit

variable {unit : SourceUnit} {cfg : Config}

/-- The declarations that a run over the unit gets to write code for. -/
def visited (unit : SourceUnit) : List Site := Site.firstMockable [] unit.sites

/-- The declarations with code, and their code, in the order of the source. -/
def emitted (unit : SourceUnit) (cfg : Config) : List (Site × Entry) :=
  unit.visited.filterMap fun s => (s.code? cfg).map (s, ·)

theorem mem_sites_of_mem_visited {s : Site} (h : s ∈ unit.visited) : s ∈ unit.sites := by
  rw [visited, Site.firstMockable] at h
  exact (List.mem_filter.mp (mem_of_mem_firsts h).1).1

theorem mem_emitted_iff {s : Site} {e : Entry} :
    (s, e) ∈ unit.emitted cfg ↔ s ∈ unit.visited ∧ s.code? cfg = some e := by
  simp [emitted]

/-- A unit has code exactly when no declaration that the run gets to ends in a fault, and then it is
the code of the declarations, in their order. -/
theorem generate_eq_ok_iff {g : GeneratedUnit} :
    (unit.generate cfg).result = .ok g ↔
      (∀ s ∈ unit.visited, ∃ code?, (s.entry? cfg).result = .ok code?) ∧
      g = .ofEntries ((unit.emitted cfg).map Prod.snd) := by
  have codes : (unit.emitted cfg).map Prod.snd = unit.visited.filterMap (·.code? cfg) := by
    simp [emitted, List.map_filterMap, Function.comp_def]
  rw [generate, Report.result_bind_eq_ok_iff, codes]
  simp only [result_entriesFrom, mapM_filterMap_eq_ok_iff, Report.result_pure, Except.ok.injEq]
  constructor
  · rintro ⟨_, ⟨hall, rfl⟩, rfl⟩
    exact ⟨hall, rfl⟩
  · rintro ⟨hall, rfl⟩
    exact ⟨_, ⟨hall, rfl⟩, rfl⟩

/-- No entity gets code twice. -/
theorem pairwise_entity_emitted :
    (unit.emitted cfg).Pairwise fun x y => x.1.info.entity ≠ y.1.info.entity := by
  have hvisited : unit.visited.Pairwise (·.info.entity ≠ ·.info.entity) := by
    rw [visited, Site.firstMockable]
    exact pairwise_firsts
  refine hvisited.filterMap _ ?_
  rintro s s' hne x hx x' hx'
  obtain ⟨e, -, rfl⟩ := Option.map_eq_some_iff.mp hx
  obtain ⟨e', -, rfl⟩ := Option.map_eq_some_iff.mp hx'
  exact hne

end SourceUnit

end HeaderMock

import HeaderMock.Decl.Mockable
import Mathlib.Data.List.Infix

/-!
# Where routines stand

All routines of a unit with the declarations that lead down to them, and what these say about the
routine: whether it is searched for in the file of the unit, and whether a mock can be generated.

The program carries the enclosing scopes of a routine, nearest first, and looks at them from the
routine upwards. For units whose routines belong where they stand, both views agree.

## Main definitions

* `Occurrence`: a routine and its chain of declarations, outermost first.
* `Decl.occurrences`: all of them, in the order of the source.
* `Occurrence.IsFound`: the search in a file gets to the routine.
* `Occurrence.IsAdmitted`: a mock can be generated for the routine.

## Main statements

* `SourceUnit.sites_eq`: the routines of a unit are those that are found.
* `Occurrence.IsFound.isMockable_site_iff`: for them, the two views on mocks agree.
-/

namespace HeaderMock

/-- A routine and the declarations around it, outermost first. -/
structure Occurrence where
  routine : Routine
  info : DeclInfo
  chain : List DeclInfo

mutual

/-- All routines of a declaration below `chain`, in the order of the source. -/
def Decl.occurrences (chain : List DeclInfo) : Decl → List Occurrence
  | ⟨info, children⟩ =>
    (match info.kind with
      | .routine routine => [{ routine, info, chain }]
      | _ => []) ++ Decl.occurrencesAll (chain ++ [info]) children

/-- All routines of declarations below `chain`, in the order of the source. -/
def Decl.occurrencesAll (chain : List DeclInfo) : List Decl → List Occurrence
  | [] => []
  | d :: ds => d.occurrences chain ++ Decl.occurrencesAll chain ds

end

mutual

/-- Nothing in the declaration belongs to other scopes than those it stands in. -/
def Decl.isPlain : Decl → Bool
  | ⟨info, children⟩ => info.enclosing?.isNone && Decl.arePlain children

def Decl.arePlain : List Decl → Bool
  | [] => true
  | d :: ds => d.isPlain && Decl.arePlain ds

end

/-- The scopes around what stands below `chain`, nearest first. -/
def Scope.above (chain : List DeclInfo) : List Scope :=
  (chain.map (·.toScope)).reverse ++ [.wholeUnit]

@[simp, grind =] theorem Scope.above_concat (chain : List DeclInfo) (d : DeclInfo) :
    Scope.above (chain ++ [d]) = d.toScope :: Scope.above chain := by
  simp [above]

/-- A declaration of the file `path` in which routines are searched for. -/
def DeclInfo.IsOnPath (path : String) (d : DeclInfo) : Prop :=
  d.fileName = path ∧
    d.kind ∈ [.namespaceScope, .classScope, .structScope, .linkage, DeclKind.unexposed]

instance (path : String) (d : DeclInfo) : Decidable (d.IsOnPath path) :=
  inferInstanceAs (Decidable (_ ∧ _))

theorem DeclInfo.IsOnPath.kind_cases {path : String} {d : DeclInfo} (h : d.IsOnPath path) :
    d.kind = .namespaceScope ∨ d.kind = .classScope ∨ d.kind = .structScope ∨ d.kind = .linkage ∨
      d.kind = .unexposed := by
  simpa using h.2

namespace Occurrence

/-- The search in the file `path` gets to the routine. -/
def IsFound (path : String) (o : Occurrence) : Prop :=
  o.info.fileName = path ∧ ∀ d ∈ o.chain, d.IsOnPath path

instance (path : String) (o : Occurrence) : Decidable (o.IsFound path) :=
  inferInstanceAs (Decidable (_ ∧ _))

/-- A mock can be generated for the routine: it has no definition and is no template, neither is a
class around it, which all can be reached, and its kind allows it. -/
def IsAdmitted (o : Occurrence) : Prop :=
  o.info.isDefined = false ∧ o.info.templateArgs ≤ 0 ∧
    (∀ d ∈ o.chain, d.kind = .classScope ∨ d.kind = .structScope →
      d.access ∈ [.opened, .unspecified, Access.unset] ∧ d.templateArgs ≤ 0) ∧
    (o.routine = .method →
      o.info.isPure = false ∧ (o.info.access = .opened ∨ o.info.isVirtual = true)) ∧
    (o.routine = .constructor → o.info.access ≠ .hidden)

instance (o : Occurrence) : Decidable o.IsAdmitted :=
  inferInstanceAs (Decidable (_ ∧ _))

/-- The routine with its enclosing scopes. -/
def site (o : Occurrence) : Site :=
  { routine := o.routine, info := o.info, enclosing := Scope.above o.chain }

end Occurrence

/-! ## The search -/

mutual

theorem Decl.chain_isPrefix {chain : List DeclInfo} {o : Occurrence} :
    ∀ {d : Decl}, o ∈ d.occurrences chain → chain <+: o.chain
  | ⟨info, children⟩, h => by
    rw [occurrences, List.mem_append] at h
    rcases h with h | h
    · split at h
      · obtain rfl := List.mem_singleton.mp h
        exact List.prefix_refl _
      · simp at h
    · exact (List.prefix_append _ _).trans (Decl.chain_isPrefix_of_all h)

theorem Decl.chain_isPrefix_of_all {chain : List DeclInfo} {o : Occurrence} :
    ∀ {ds : List Decl}, o ∈ Decl.occurrencesAll chain ds → chain <+: o.chain
  | [], h => by simp [occurrencesAll] at h
  | d :: ds, h => by
    rw [occurrencesAll, List.mem_append] at h
    rcases h with h | h
    · exact Decl.chain_isPrefix h
    · exact Decl.chain_isPrefix_of_all h

end

/-- The search does not get past a declaration that is not on its path. -/
theorem Decl.filter_occurrencesAll_eq_nil {path : String} {chain : List DeclInfo} {d : DeclInfo}
    (hd : d ∈ chain) (hpath : ¬d.IsOnPath path) (ds : List Decl) :
    (Decl.occurrencesAll chain ds).filter (·.IsFound path) = [] := by
  rw [List.filter_eq_nil_iff]
  intro o ho hfound
  have hfound : o.IsFound path := by simpa using hfound
  exact hpath (hfound.2 d ((Decl.chain_isPrefix_of_all ho).subset hd))

theorem DeclKind.isSearched_iff {kind : DeclKind} :
    kind.isSearched = true ↔
      kind ∈ [.namespaceScope, .classScope, .structScope, .linkage, DeclKind.unexposed] := by
  cases kind <;> simp [isSearched]

/-- What is no routine is searched if it is on the path. -/
theorem Decl.sites_of_not_routine {path : String} {outer : List Scope} {info : DeclInfo}
    {children : List Decl} (h : ∀ routine, info.kind ≠ .routine routine) :
    Decl.sites path outer ⟨info, children⟩ =
      if info.IsOnPath path then Decl.sitesAll path (info.toScope :: info.enclosing outer) children
      else [] := by
  by_cases hfile : info.fileName = path
  · simp only [sites, hfile, DeclInfo.IsOnPath, ← DeclKind.isSearched_iff]
    cases hkind : info.kind with
    | routine routine => exact absurd hkind (h routine)
    | _ => simp
  · simp [sites, hfile, DeclInfo.IsOnPath]

theorem Decl.occurrences_of_not_routine {chain : List DeclInfo} {info : DeclInfo}
    {children : List Decl} (h : ∀ routine, info.kind ≠ .routine routine) :
    Decl.occurrences chain ⟨info, children⟩ = Decl.occurrencesAll (chain ++ [info]) children := by
  rw [occurrences]
  split
  · next routine hkind => exact absurd hkind (h routine)
  · rfl

mutual

theorem Decl.sites_eq {path : String} {chain : List DeclInfo}
    (hchain : ∀ e ∈ chain, e.IsOnPath path) :
    ∀ {d : Decl}, d.isPlain = true →
      d.sites path (Scope.above chain) =
        ((d.occurrences chain).filter (·.IsFound path)).map Occurrence.site
  | ⟨info, children⟩, h => by
    simp only [isPlain, Bool.and_eq_true, Option.isNone_iff_eq_none] at h
    obtain ⟨henclosing, hchildren⟩ := h
    have above : info.enclosing (Scope.above chain) = Scope.above chain := by
      simp [DeclInfo.enclosing, henclosing]
    have below (hpath : ¬info.IsOnPath path) :
        (occurrencesAll (chain ++ [info]) children).filter (·.IsFound path) = [] :=
      filter_occurrencesAll_eq_nil (by simp) hpath children
    -- Neither below a routine nor below a declaration off the path is anything found.
    by_cases hroutine : ∃ routine, info.kind = .routine routine
    · obtain ⟨routine, hkind⟩ := hroutine
      have hpath : ¬info.IsOnPath path := by simp [DeclInfo.IsOnPath, hkind]
      have found : (⟨routine, info, chain⟩ : Occurrence).IsFound path ↔ info.fileName = path :=
        and_iff_left hchain
      by_cases hfile : info.fileName = path <;>
        simp [sites, occurrences, hkind, above, below hpath, found, hfile, Occurrence.site]
    · have hroutine := not_exists.mp hroutine
      rw [sites_of_not_routine hroutine, occurrences_of_not_routine hroutine, above]
      split
      · next hpath =>
        have hchain' : ∀ e ∈ chain ++ [info], e.IsOnPath path := by
          intro e he
          rcases List.mem_append.mp he with he | he
          · exact hchain e he
          · obtain rfl := List.mem_singleton.mp he
            exact hpath
        rw [← Decl.sitesAll_eq hchain' hchildren, Scope.above_concat]
      · next hpath => rw [below hpath, List.map_nil]

theorem Decl.sitesAll_eq {path : String} {chain : List DeclInfo}
    (hchain : ∀ e ∈ chain, e.IsOnPath path) :
    ∀ {ds : List Decl}, Decl.arePlain ds = true →
      Decl.sitesAll path (Scope.above chain) ds =
        ((Decl.occurrencesAll chain ds).filter (·.IsFound path)).map Occurrence.site
  | [], _ => by simp [sitesAll, occurrencesAll]
  | d :: ds, h => by
    simp only [arePlain, Bool.and_eq_true] at h
    rw [sitesAll, occurrencesAll, List.filter_append, List.map_append, Decl.sites_eq hchain h.1,
      Decl.sitesAll_eq hchain h.2]

end

namespace SourceUnit

variable (unit : SourceUnit)

/-- Nothing in the unit belongs to other scopes than those it stands in. -/
def isPlain : Bool := Decl.arePlain unit.decls

/-- The routines of the unit that are found in its own file. -/
def found : List Occurrence :=
  (Decl.occurrencesAll [] unit.decls).filter (·.IsFound unit.path)

/-- The routines of a unit are those that are found. -/
theorem sites_eq (h : unit.isPlain = true) : unit.sites = unit.found.map Occurrence.site := by
  have outermost : ∀ d ∈ ([] : List DeclInfo), d.IsOnPath unit.path := by simp
  exact Decl.sitesAll_eq outermost h

end SourceUnit

/-! ## Mocks -/

theorem Routine.isOverridable_iff {r : Routine} {d : DeclInfo} :
    r.isOverridable d = true ↔
      (r = .method → d.isPure = false ∧ (d.access = .opened ∨ d.isVirtual = true)) ∧
        (r = .constructor → d.access ≠ .hidden) := by
  cases r <;> simp [isOverridable]

/-- Scopes in which routines are searched for are no templates. -/
theorem DeclInfo.IsOnPath.isReachable_iff {path : String} {d : DeclInfo} (h : d.IsOnPath path) :
    d.toScope.isReachable = true ↔
      (d.kind = .classScope ∨ d.kind = .structScope →
        d.access ∈ [.opened, .unspecified, Access.unset] ∧ d.templateArgs ≤ 0) := by
  have hopen : d.access.isOpen = true ↔ d.access ∈ [.opened, .unspecified, Access.unset] := by
    cases d.access <;> simp [Access.isOpen]
  simp only [Scope.isReachable, Bool.and_eq_true, Bool.or_eq_true, hopen, decide_eq_true_eq]
  rcases h.kind_cases with hk | hk | hk | hk | hk <;>
    simp [hk, DeclKind.isTemplate, DeclKind.isClass]

/-- The walk upwards gets through all scopes in which routines are searched for, to the unit. -/
theorem Scope.inUnit_above {path : String} {chain : List DeclInfo}
    (h : ∀ d ∈ chain, d.IsOnPath path) :
    Scope.inUnit (Scope.above chain) = (chain.map (·.toScope)).reverse := by
  have inner : ∀ s ∈ (chain.map (·.toScope)).reverse, (s.kind != .unit) = true := by
    intro s hs
    obtain ⟨d, hd, rfl⟩ := List.mem_map.mp (List.mem_reverse.mp hs)
    rcases (h d hd).kind_cases with hk | hk | hk | hk | hk <;> simp [hk]
  rw [Scope.inUnit, Scope.above, List.takeWhile_append_of_pos inner]
  simp [Scope.wholeUnit]

namespace Occurrence

variable {o : Occurrence} {path : String}

/-- The routine can be reached exactly when every class that leads down to it is open and no
template. -/
theorem IsFound.isAccessible_site_iff (h : o.IsFound path) :
    o.site.isAccessible = true ↔
      ∀ d ∈ o.chain, d.kind = .classScope ∨ d.kind = .structScope →
        d.access ∈ [.opened, .unspecified, Access.unset] ∧ d.templateArgs ≤ 0 := by
  rw [Site.isAccessible, site, Scope.inUnit_above h.2, List.all_reverse, List.all_map,
    List.all_eq_true]
  exact forall₂_congr fun d hd => (h.2 d hd).isReachable_iff

/-- What the routine sees of its scopes and what leads down to it say the same about mocks. -/
theorem IsFound.isMockable_site_iff (h : o.IsFound path) :
    o.site.isMockable = true ↔ o.IsAdmitted := by
  simp only [Site.isMockable, Bool.and_eq_true, h.isAccessible_site_iff, Routine.isOverridable_iff,
    IsAdmitted, Bool.not_eq_true', decide_eq_true_eq, and_assoc]
  rfl

end Occurrence

end HeaderMock

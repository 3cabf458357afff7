import HeaderMock.Proofs.Decl.Occurrence

/-!
# Names on the way down

The names of a routine are read off its enclosing scopes, from the routine upwards; the search for
routines goes downwards. For units whose routines belong where they stand, the names are those that
are met on the way down, and nothing on the way is a template.

## Main definitions

* `Descends`: the way of the search from outermost declarations down to a routine.
* `DeclInfo.namesOn`: the names that are met on the way down a chain of declarations.

## Main statements

* `SourceUnit.mem_found_iff`: the routines that are found are those that the search descends to.
* `Scope.names_above`: the names around what stands below a chain are those on the way down.
* `upward_walk_agrees`: full names, owners and access, as seen from either end.
-/

namespace HeaderMock

/-! ## The way down -/

/-- The search in the file `path` gets from the declarations `ds` to the routine `info` through
`chain`, outermost first: each declaration stands inside the one before it. -/
inductive Descends (path : String) (routine : Routine) (info : DeclInfo) :
    (ds : List Decl) → (chain : List DeclInfo) → Prop where
  | arrive {ds : List Decl} {d : Decl} (hd : d ∈ ds) (hinfo : d.info = info)
      (hfile : info.fileName = path) (hkind : info.kind = .routine routine) :
      Descends path routine info ds []
  | enter {ds : List Decl} {d : Decl} {chain : List DeclInfo} (hd : d ∈ ds)
      (hpath : d.info.IsOnPath path) (hrest : Descends path routine info d.children chain) :
      Descends path routine info ds (d.info :: chain)

namespace Descends

variable {path : String} {routine : Routine} {info : DeclInfo} {ds ds' : List Decl}
  {chain : List DeclInfo}

theorem mono (h : Descends path routine info ds chain) (hsub : ds ⊆ ds') :
    Descends path routine info ds' chain := by
  cases h with
  | arrive hd hinfo hfile hkind => exact .arrive (hsub hd) hinfo hfile hkind
  | enter hd hpath hrest => exact .enter (hsub hd) hpath hrest

theorem isFound (h : Descends path routine info ds chain) :
    (⟨routine, info, chain⟩ : Occurrence).IsFound path := by
  induction h with
  | arrive _ _ hfile _ => exact ⟨hfile, by simp⟩
  | enter _ hpath _ ih => exact ⟨ih.1, List.forall_mem_cons.mpr ⟨hpath, ih.2⟩⟩

end Descends

theorem Decl.mem_occurrencesAll_iff {chain : List DeclInfo} {o : Occurrence} {ds : List Decl} :
    o ∈ Decl.occurrencesAll chain ds ↔ ∃ d ∈ ds, o ∈ d.occurrences chain := by
  induction ds with
  | nil => simp [occurrencesAll]
  | cons d ds ih => simp [occurrencesAll, ih]

theorem Descends.mem_occurrencesAll {path : String} {routine : Routine} {info : DeclInfo}
    {ds : List Decl} {below : List DeclInfo} (h : Descends path routine info ds below)
    (above : List DeclInfo) :
    ⟨routine, info, above ++ below⟩ ∈ Decl.occurrencesAll above ds := by
  induction h generalizing above with
  | @arrive ds d hd hinfo _ hkind =>
    refine Decl.mem_occurrencesAll_iff.mpr ⟨d, hd, ?_⟩
    obtain ⟨dinfo, children⟩ := d
    obtain rfl : dinfo = info := hinfo
    simp [Decl.occurrences, hkind]
  | @enter ds d below hd _ _ ih =>
    refine Decl.mem_occurrencesAll_iff.mpr ⟨d, hd, ?_⟩
    obtain ⟨dinfo, children⟩ := d
    rw [Decl.occurrences, List.mem_append]
    exact .inr (by simpa using ih (above ++ [dinfo]))

mutual

theorem Decl.exists_descent {path : String} {above : List DeclInfo} {o : Occurrence}
    (hfound : o.IsFound path) :
    ∀ {d : Decl}, o ∈ d.occurrences above →
      ∃ below, o.chain = above ++ below ∧ Descends path o.routine o.info [d] below
  | ⟨info, children⟩, h => by
    rw [occurrences, List.mem_append] at h
    rcases h with h | h
    · split at h
      · next routine hkind =>
        obtain rfl := List.mem_singleton.mp h
        exact ⟨[], by simp, .arrive (List.mem_singleton_self _) rfl hfound.1 hkind⟩
      · simp at h
    · obtain ⟨below, hchain, hbelow⟩ := Decl.exists_descent_of_all hfound h
      have hpath : info.IsOnPath path := hfound.2 info (by simp [hchain])
      exact ⟨info :: below, by simp [hchain],
        .enter (d := ⟨info, children⟩) (List.mem_singleton_self _) hpath hbelow⟩

theorem Decl.exists_descent_of_all {path : String} {above : List DeclInfo} {o : Occurrence}
    (hfound : o.IsFound path) :
    ∀ {ds : List Decl}, o ∈ Decl.occurrencesAll above ds →
      ∃ below, o.chain = above ++ below ∧ Descends path o.routine o.info ds below
  | [], h => by simp [occurrencesAll] at h
  | d :: ds, h => by
    rw [occurrencesAll, List.mem_append] at h
    rcases h with h | h
    · obtain ⟨below, hchain, hbelow⟩ := Decl.exists_descent hfound h
      exact ⟨below, hchain, hbelow.mono (by simp)⟩
    · obtain ⟨below, hchain, hbelow⟩ := Decl.exists_descent_of_all hfound h
      exact ⟨below, hchain, hbelow.mono (by simp)⟩

end

/-- The routines that are found are those that the search descends to. -/
theorem SourceUnit.mem_found_iff {unit : SourceUnit} {o : Occurrence} :
    o ∈ unit.found ↔ Descends unit.path o.routine o.info unit.decls o.chain := by
  rw [SourceUnit.found, List.mem_filter, decide_eq_true_iff]
  constructor
  · rintro ⟨hmem, hfound⟩
    obtain ⟨below, hchain, hbelow⟩ := Decl.exists_descent_of_all hfound hmem
    rwa [hchain]
  · exact fun h => ⟨by simpa using h.mem_occurrencesAll [], h.isFound⟩

/-! ## Names -/

namespace DeclInfo

/-- The declaration is a class or a struct. -/
def IsClass (d : DeclInfo) : Prop := d.kind = .classScope ∨ d.kind = .structScope

/-- A scope that leaves its name in the names of its members, if it has one. -/
def IsNamingScope (d : DeclInfo) : Prop := d.kind = .namespaceScope ∨ d.IsClass

instance (d : DeclInfo) : Decidable d.IsNamingScope :=
  inferInstanceAs (Decidable (d.kind = .namespaceScope ∨ d.kind = .classScope ∨
    d.kind = .structScope))

/-- The names of the namespaces, classes and structs of a chain, in its order; those without a name
are left out. -/
def namesOn (chain : List DeclInfo) : List String :=
  ((chain.filter (·.IsNamingScope)).map (·.spelling)).filter (· ≠ "")

theorem namesOn_concat {chain : List DeclInfo} {d : DeclInfo} (hd : d.IsNamingScope)
    (hname : d.spelling ≠ "") : namesOn (chain ++ [d]) = namesOn chain ++ [d.spelling] := by
  simp [namesOn, hd, hname]

variable {path : String} {d : DeclInfo}

/-- On the way down, the scopes that leave their names are those that are not transparent. -/
theorem IsOnPath.isNamingScope_iff (h : d.IsOnPath path) :
    d.IsNamingScope ↔ d.kind.isTransparent = false := by
  rcases h.kind_cases with hk | hk | hk | hk | hk <;>
    simp [IsNamingScope, IsClass, hk, DeclKind.isTransparent]

theorem IsOnPath.isTemplate_eq_false (h : d.IsOnPath path) : d.kind.isTemplate = false := by
  rcases h.kind_cases with hk | hk | hk | hk | hk <;> simp [hk, DeclKind.isTemplate]

end DeclInfo

/-- The names around what stands below a chain are those on the way down. -/
theorem Scope.names_above {path : String} {chain : List DeclInfo}
    (h : ∀ d ∈ chain, d.IsOnPath path) :
    Scope.names (Scope.above chain) = DeclInfo.namesOn chain := by
  have hkept : ∀ d ∈ chain, (!d.kind.isTransparent && d.spelling != "") =
      (decide (d.spelling ≠ "") && decide d.IsNamingScope) := by
    intro d hd
    rw [Bool.eq_iff_iff]
    simp [(h d hd).isNamingScope_iff, and_comm]
  calc Scope.names (Scope.above chain)
      = ((chain.map (·.toScope)).filter fun s => !s.kind.isTransparent && s.spelling != "").map
          (·.spelling) := by
        rw [Scope.names, Scope.inUnit_above h, List.filter_reverse, List.map_reverse,
          List.reverse_reverse]
    _ = (chain.filter fun d => !d.kind.isTransparent && d.spelling != "").map (·.spelling) := by
        rw [List.filter_map, List.map_map]
        rfl
    _ = (chain.filter fun d => decide (d.spelling ≠ "") && decide d.IsNamingScope).map
          (·.spelling) := by
        rw [List.filter_congr hkept]
    _ = DeclInfo.namesOn chain := by
        rw [DeclInfo.namesOn, List.filter_map, List.filter_filter]
        rfl

namespace Occurrence

variable {o : Occurrence} {path : String}

/-- The full name of the scope right around a routine, if this is a class with a name, is the full
name of the routine without its last part. -/
theorem IsFound.ownerName?_site (h : o.IsFound path) {outer : List DeclInfo} {owner : DeclInfo}
    (hchain : o.chain = outer ++ [owner]) (hclass : owner.IsClass) (hname : owner.spelling ≠ "") :
    ∃ name, o.site.ownerName? = some name ∧
      name = String.intercalate "::" (DeclInfo.namesOn o.chain) ∧
      o.site.qualifiedName = name ++ "::" ++ o.info.spelling := by
  have houter : ∀ d ∈ outer, d.IsOnPath path := fun d hd => h.2 d (by simp [hchain, hd])
  have hnames : DeclInfo.namesOn o.chain = DeclInfo.namesOn outer ++ [owner.spelling] := by
    rw [hchain, DeclInfo.namesOn_concat (.inr hclass) hname]
  refine ⟨_, ?_, rfl, ?_⟩
  · have henclosing : o.site.enclosing = owner.toScope :: Scope.above outer := by
      simp [site, hchain]
    simp only [Site.ownerName?, henclosing, Scope.names_above houter, hnames, joinScopes]
  · have hne : DeclInfo.namesOn o.chain ≠ [] := by simp [hnames]
    rw [Site.qualifiedName, Site.scopeNames, site, Scope.names_above h.2, joinScopes,
      String.intercalate_append_of_ne_nil hne (by simp), String.intercalate_singleton]

/-- A routine cannot be reached only for the access or the template arguments of a class that leads
down to it. -/
theorem IsFound.not_isAccessible_site_iff (h : o.IsFound path) :
    o.site.isAccessible = false ↔
      ∃ d ∈ o.chain, d.IsClass ∧
        (d.access ∉ [.opened, .unspecified, Access.unset] ∨ 0 < d.templateArgs) := by
  rw [← Bool.not_eq_true, h.isAccessible_site_iff]
  simp only [not_forall, not_and_or, Int.not_le, exists_prop]
  rfl

end Occurrence

/-- What a routine sees of its scopes upwards is what leads down to it, for every routine of a unit
in which nothing belongs to other scopes than those it stands in. -/
theorem upward_walk_agrees (unit : SourceUnit) (hplain : unit.isPlain = true) :
    unit.sites = unit.found.map Occurrence.site ∧
    ∀ o ∈ unit.found,
      Descends unit.path o.routine o.info unit.decls o.chain ∧
      o.site.scopeNames = DeclInfo.namesOn o.chain ∧
      o.site.qualifiedName =
        String.intercalate "::" (DeclInfo.namesOn o.chain ++ [o.info.spelling]) ∧
      (o.routine ≠ .function → ∀ outer owner, o.chain = outer ++ [owner] → owner.IsClass →
        owner.spelling ≠ "" →
        ∃ name, o.site.ownerName? = some name ∧
          name = String.intercalate "::" (DeclInfo.namesOn o.chain) ∧
          o.site.qualifiedName = name ++ "::" ++ o.info.spelling) ∧
      (∀ d ∈ o.chain, d.kind.isTemplate = false) ∧
      (o.site.isAccessible = false ↔
        ∃ d ∈ o.chain, d.IsClass ∧
          (d.access ∉ [.opened, .unspecified, Access.unset] ∨ 0 < d.templateArgs)) := by
  refine ⟨unit.sites_eq hplain, fun o ho => ?_⟩
  have hdescends := SourceUnit.mem_found_iff.mp ho
  have hfound : o.IsFound unit.path := hdescends.isFound
  have hnames : o.site.scopeNames = DeclInfo.namesOn o.chain := Scope.names_above hfound.2
  refine ⟨hdescends, hnames, ?_, fun _ outer owner => hfound.ownerName?_site, fun d hd => ?_,
    hfound.not_isAccessible_site_iff⟩
  · rw [Site.qualifiedName, hnames]
    rfl
  · exact (hfound.2 d hd).isTemplate_eq_false

/-- A class `C` that cannot be named from outside. -/
def DeclInfo.closedClass : DeclInfo :=
  { kind := .classScope, spelling := "C", access := .hidden, file := some "c.hpp" }

/-- A unit with the method `m` of a closed class in a block with linkage, in a namespace without a
name, in the namespace `ns`. -/
def SourceUnit.nested : SourceUnit where
  path := "c.hpp"
  decls :=
    [{ info := { kind := .namespaceScope, spelling := "ns", file := some "c.hpp" }
       children :=
        [{ info := { kind := .namespaceScope, file := some "c.hpp" }
           children :=
            [{ info := { kind := .linkage, spelling := "C++", file := some "c.hpp" }
               children :=
                [{ info := .closedClass
                   children :=
                    [{ info :=
                        { kind := .routine .method, spelling := "m"
                          file := some "c.hpp" } }] }] }] }] }]

/-- Neither the namespace without a name nor the block with linkage is part of a name, and the
access of its class alone keeps the method out of reach. -/
theorem upward_walk_agrees_nested :
    ∃ m, SourceUnit.nested.isPlain = true ∧ SourceUnit.nested.found = [m] ∧ m.chain.length = 4 ∧
      m.site.qualifiedName = "ns::C::m" ∧ m.site.ownerName? = some "ns::C" ∧
      m.site.isAccessible = false := by
  obtain ⟨m, hfound, hlength, hnames, hspelling, hmethod, hchain⟩ :
      ∃ m, SourceUnit.nested.found = [m] ∧ m.chain.length = 4 ∧
        DeclInfo.namesOn m.chain = ["ns", "C"] ∧ m.info.spelling = "m" ∧ m.routine = .method ∧
        m.chain = m.chain.take 3 ++ [.closedClass] :=
    ⟨_, rfl, rfl, by decide, rfl, rfl, rfl⟩
  obtain ⟨-, hall⟩ := upward_walk_agrees SourceUnit.nested rfl
  obtain ⟨-, -, hqualified, howner, -, haccessible⟩ := hall m (by simp [hfound])
  obtain ⟨name, hname, hjoined, -⟩ := howner (by simp [hmethod]) _ _ hchain (.inl rfl) (by decide)
  have hclosed : DeclInfo.closedClass ∈ m.chain := by
    rw [hchain]
    simp
  refine ⟨m, rfl, hfound, hlength, ?_, ?_, ?_⟩
  · rw [hqualified, hnames, hspelling]
    rfl
  · rw [hname, hjoined, hnames]
    rfl
  · exact haccessible.mpr ⟨.closedClass, hclosed, .inl rfl, .inl (by decide)⟩

end HeaderMock

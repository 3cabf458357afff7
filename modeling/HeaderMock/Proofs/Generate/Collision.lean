import HeaderMock.Proofs.Generate.Emitted
import HeaderMock.Proofs.Helper.Prototype
import HeaderMock.Proofs.Lockstep

/-!
# Declarations that share their helpers

Helpers are told apart by their namespaces, name and formals. Declarations that differ in nothing of
this share their helpers, so that the same prototypes stand in the code of a unit twice. A method
and its `const` overload always do.

## Main definitions

* `Site.SharesHelpers`: two declarations get helpers of one name, in one place, with one list of
  formals.

## Main statements

* `Site.exists_heads`: the heads behind the prototypes of a declaration.
* `Site.sharesHelpers_constOverload`: a method shares its helpers with its `const` overload.
* `prototypes_nodup_iff`: the prototypes of a unit are distinct exactly when no two of its
  declarations share their helpers.
* `const_overload_collides`: a unit with the same prototypes twice.
-/

namespace HeaderMock

variable {s s' : Site} {cfg : Config}

namespace Site

/-- The formals of the helper for a single call, as one text. -/
def helperFormals? (s : Site) (cfg : Config) : Option String :=
  (s.signature cfg).result.toOption.bind fun sig =>
    sig.helperHeads.toOption.map HelperHeads.formalsText

/-- The declarations get helpers of one name, in one place, with one list of formals. -/
structure SharesHelpers (cfg : Config) (s s' : Site) : Prop where
  scopes : s.scopeNames = s'.scopeNames
  name : s.helperName = s'.helperName
  formals : s.helperFormals? cfg = s'.helperFormals? cfg

/-- The heads behind the prototypes of a declaration. -/
theorem exists_heads {e : Entry} (h : s.code? cfg = some e) :
    ∃ heads : HelperHeads, heads.prototypes = e.prototypes ∧ heads.namespaces = s.scopeNames ∧
      heads.name = s.helperName ∧ s.helperFormals? cfg = some heads.formalsText := by
  obtain ⟨sig, hsig, he⟩ := code?_eq_some_iff.mp h
  obtain ⟨heads, hheads, hprototypes⟩ := map_eq_ok_iff.mp (Signature.entry_eq_ok_iff.mp he).2.1
  obtain ⟨-, -, hname, hnamespaces, -, -⟩ := Signature.helperHeads_eq_ok_iff.mp hheads
  have hc := collects_of_signature hsig
  refine ⟨heads, hprototypes, hnamespaces.trans hc.namespaces, hname.trans hc.helperName, ?_⟩
  simp [helperFormals?, hsig, hheads, Except.toOption]

/-- Prototypes are the same exactly when helpers are shared. -/
theorem prototypes_eq_iff_sharesHelpers {e e' : Entry} (h : s.code? cfg = some e)
    (h' : s'.code? cfg = some e') (hn : ∀ name ∈ s.scopeNames, IsScopeName name)
    (hn' : ∀ name ∈ s'.scopeNames, IsScopeName name) :
    e.prototypes = e'.prototypes ↔ SharesHelpers cfg s s' := by
  obtain ⟨heads, hprototypes, hscopes, hname, hformals⟩ := exists_heads h
  obtain ⟨heads', hprototypes', hscopes', hname', hformals'⟩ := exists_heads h'
  rw [← hprototypes, ← hprototypes',
    HelperHeads.prototypes_eq_iff (by rwa [hscopes]) (by rwa [hscopes'])]
  constructor
  · rintro ⟨hs, hn, hf⟩
    exact ⟨by rw [← hscopes, ← hscopes', hs], by rw [← hname, ← hname', hn],
      by rw [hformals, hformals', hf]⟩
  · rintro ⟨hs, hn, hf⟩
    rw [hformals, hformals', Option.some.injEq] at hf
    exact ⟨by rw [hscopes, hscopes', hs], by rw [hname, hname', hn], hf⟩

/-! ## Overloads for constant objects -/

/-- The overload of a method for constant objects, or for others. -/
def constOverload (s : Site) (isConst : Bool) (entity : String) : Site :=
  { s with info := { s.info with isConst, entity } }

/-- Only the head of the mock tells a method from its overload. -/
theorem runsAlike_signature_constOverload (s : Site) (cfg : Config) (isConst : Bool)
    (entity : String) :
    Report.RunsAlike (fun sig sig' => sig.helperHeads = sig'.helperHeads) (s.signature cfg)
      ((s.constOverload isConst entity).signature cfg) := by
  -- All steps are the same; only the signature at the end holds the changed field.
  unfold signature
  refine .bind (.refl (fun _ => rfl) _) ?_
  rintro result _ rfl
  refine .bind (.refl (fun _ => rfl) _) ?_
  rintro parameters _ rfl
  refine .bind (.refl (fun _ => rfl) _) ?_
  rintro _ _ rfl
  refine .bind (.refl (fun _ => rfl) _) ?_
  rintro ownerName _ rfl
  refine .bind (.refl (fun _ => rfl) _) ?_
  rintro exceptionSpec _ rfl
  exact .pure rfl

theorem sharesHelpers_constOverload (s : Site) (cfg : Config) (isConst : Bool) (entity : String) :
    SharesHelpers cfg s (s.constOverload isConst entity) := by
  refine ⟨rfl, rfl, ?_⟩
  unfold helperFormals?
  have halike := (s.runsAlike_signature_constOverload cfg isConst entity).result
  generalize (s.signature cfg).result = x at halike ⊢
  generalize ((s.constOverload isConst entity).signature cfg).result = y at halike ⊢
  cases halike with
  | ok h => simp [Except.toOption, h]
  | error fault => rfl

end Site

/-! ## Units -/

/-- The prototypes of a unit are the same for two of its declarations exactly when these share their
helpers, so they are distinct exactly when no two declarations do, different entities though they
are. A method always shares its helpers with its `const` overload. -/
theorem prototypes_nodup_iff {unit : SourceUnit} {g : GeneratedUnit}
    (hg : (unit.generate cfg).result = .ok g)
    (hscopes : ∀ s ∈ unit.sites, ∀ name ∈ s.scopeNames, IsScopeName name) :
    g.prototypes = (unit.emitted cfg).map (·.2.prototypes) ∧
    (unit.emitted cfg).Pairwise (fun x y => x.1.info.entity ≠ y.1.info.entity) ∧
    (∀ x ∈ unit.emitted cfg, ∀ y ∈ unit.emitted cfg,
      x.2.prototypes = y.2.prototypes ↔ Site.SharesHelpers cfg x.1 y.1) ∧
    (g.prototypes.Nodup ↔
      (unit.emitted cfg).Pairwise fun x y => ¬Site.SharesHelpers cfg x.1 y.1) ∧
    ∀ (s : Site) (isConst : Bool) (entity : String),
      Site.SharesHelpers cfg s (s.constOverload isConst entity) := by
  have hprototypes : g.prototypes = (unit.emitted cfg).map (·.2.prototypes) := by
    rw [(SourceUnit.generate_eq_ok_iff.mp hg).2]
    simp [GeneratedUnit.ofEntries, Function.comp_def]
  have hshares : ∀ x ∈ unit.emitted cfg, ∀ y ∈ unit.emitted cfg,
      x.2.prototypes = y.2.prototypes ↔ Site.SharesHelpers cfg x.1 y.1 := by
    intro x hx y hy
    obtain ⟨hvisited, hcode⟩ := SourceUnit.mem_emitted_iff.mp hx
    obtain ⟨hvisited', hcode'⟩ := SourceUnit.mem_emitted_iff.mp hy
    exact Site.prototypes_eq_iff_sharesHelpers hcode hcode'
      (hscopes x.1 (SourceUnit.mem_sites_of_mem_visited hvisited))
      (hscopes y.1 (SourceUnit.mem_sites_of_mem_visited hvisited'))
  refine ⟨hprototypes, SourceUnit.pairwise_entity_emitted, hshares, ?_, fun s =>
    s.sharesHelpers_constOverload cfg⟩
  rw [hprototypes, List.Nodup, List.pairwise_map]
  constructor
  · intro hnodup
    exact hnodup.imp_of_mem fun hx hy hne hs => hne ((hshares _ hx _ hy).mpr hs)
  · intro hapart
    exact hapart.imp_of_mem fun hx hy hs heq => hs ((hshares _ hx _ hy).mp heq)

namespace SourceUnit

/-- A class `C` with `void m()` and a second method. -/
def withMethod (second : DeclInfo) : SourceUnit where
  path := "c.hpp"
  decls :=
    [{ info := { kind := .classScope, spelling := "C", file := some "c.hpp" }
       children :=
        [{ info :=
            { kind := .routine .method, spelling := "m", access := .opened, file := some "c.hpp"
              entity := "m", result := { kind := .void, spelling := "void" } } },
         { info := second }] }]

/-- `void m()` and `void m(int n)` -/
def withIntOverload : SourceUnit :=
  withMethod
    { kind := .routine .method, spelling := "m", access := .opened, file := some "c.hpp"
      entity := "m int", result := { kind := .void, spelling := "void" }
      args := [{ spelling := "n", type := { kind := .int, spelling := "int" } }] }

/-- `void m()` and `void m() const` -/
def withConstOverload : SourceUnit :=
  withMethod
    { kind := .routine .method, spelling := "m", access := .opened, file := some "c.hpp"
      entity := "m const", result := { kind := .void, spelling := "void" }, isConst := true }

end SourceUnit

/-- Methods with different formals have different prototypes. -/
theorem prototypes_nodup_iff_overload :
    ∃ g, (SourceUnit.withIntOverload.generate {}).result = .ok g ∧
      (∀ s ∈ SourceUnit.withIntOverload.sites, ∀ name ∈ s.scopeNames, IsScopeName name) ∧
      g.prototypes.length = 2 ∧ g.prototypes.Nodup := by
  have hscopes : ∀ s ∈ SourceUnit.withIntOverload.sites, ∀ name ∈ s.scopeNames,
      IsScopeName name := by decide
  obtain ⟨g, hg, hlength⟩ : ∃ g, (SourceUnit.withIntOverload.generate {}).result = .ok g ∧
      g.prototypes.length = 2 := ⟨_, rfl, rfl⟩
  obtain ⟨x, y, hxy, hne⟩ : ∃ x y, SourceUnit.withIntOverload.emitted {} = [x, y] ∧
      x.1.helperFormals? {} ≠ y.1.helperFormals? {} := ⟨_, _, rfl, by decide⟩
  refine ⟨g, hg, hscopes, hlength, (prototypes_nodup_iff hg hscopes).2.2.2.1.mpr ?_⟩
  rw [hxy, List.pairwise_pair]
  exact fun hs => hne hs.formals

/-- A method and its `const` overload are two entities with the same prototypes. -/
theorem const_overload_collides :
    ∃ g text, (SourceUnit.withConstOverload.generate {}).result = .ok g ∧
      (SourceUnit.withConstOverload.emitted {}).map (·.1.info.entity) = ["m", "m const"] ∧
      g.prototypes = [text, text] :=
  ⟨_, _, rfl, rfl, rfl⟩

end HeaderMock

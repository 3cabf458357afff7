import HeaderMock.Proofs.Decl.Occurrence
import HeaderMock.Proofs.Generate.Entries

/-!
# What is generated for a unit

The code for a unit, said without its traversal: take all routines that are found in the file of the
unit, keep those for which a mock can be generated, keep the first of each entity, and write the
code for those with supported types, in the order of the source.

## Main definitions

* `firsts`: the members of a list whose key does not come earlier.
* `SourceUnit.admitted`, `SourceUnit.firstAdmitted`: the routines that are kept.
* `SourceUnit.signatures`: what is collected of them.

## Main statements

* `entriesFrom_eq_ok`: the run over all routines of a unit.
* `generate_eq_reference`: the code of a unit is that of its signatures.
-/

namespace HeaderMock

/-! ## First members -/

section Firsts

variable {α β κ : Type} [DecidableEq κ]

/-- The members whose key is neither in `seen` nor that of an earlier member. -/
def firsts (key : α → κ) (seen : List κ) (l : List α) : List α :=
  (l.zipIdx.filter fun (a, i) => key a ∉ seen ∧ key a ∉ (l.take i).map key).map Prod.fst

variable {key : α → κ} {seen : List κ} {a : α} {l : List α}

@[simp, grind =] theorem firsts_nil : firsts key seen [] = [] := rfl

/-- Only which keys have been seen matters. -/
theorem firsts_congr {seen' : List κ} (h : ∀ k, k ∈ seen ↔ k ∈ seen') :
    firsts key seen l = firsts key seen' l := by
  simp only [firsts, h]

/-- The head comes first unless its key has been seen; behind it, its key has. -/
@[grind =] theorem firsts_cons :
    firsts key seen (a :: l) =
      (if key a ∈ seen then [] else [a]) ++ firsts key (key a :: seen) l := by
  have shift (x : α) (i : Nat) :
      (key x ∉ seen ∧ key x ∉ ((a :: l).take (i + 1)).map key) ↔
        key x ∉ key a :: seen ∧ key x ∉ (l.take i).map key := by
    simp only [List.take_succ_cons, List.map_cons, List.mem_cons, not_or]
    tauto
  have rest : (((l.zipIdx.map (Prod.map id (· + 1))).filter fun x =>
      key x.1 ∉ seen ∧ key x.1 ∉ ((a :: l).take x.2).map key).map Prod.fst) =
        firsts key (key a :: seen) l := by
    simp only [List.filter_map, List.map_map, Function.comp_def, Prod.map_fst, Prod.map_snd, id_eq,
      shift]
    rfl
  rw [firsts, List.zipIdx_cons', List.filter_cons, ← rest]
  by_cases h : key a ∈ seen <;> simp [h]

theorem firsts_cons_of_mem (h : key a ∈ seen) : firsts key seen (a :: l) = firsts key seen l := by
  rw [firsts_cons, if_pos h, List.nil_append]
  exact firsts_congr fun k => by grind

theorem firsts_cons_of_not_mem (h : key a ∉ seen) :
    firsts key seen (a :: l) = a :: firsts key (key a :: seen) l := by
  simp [firsts_cons, h]

theorem firsts_map {f : β → α} {l : List β} :
    firsts key seen (l.map f) = (firsts (fun b => key (f b)) seen l).map f := by
  induction l generalizing seen with
  | nil => rfl
  | cons b l ih => simp only [List.map_cons, firsts_cons, ih, List.map_append]; split <;> rfl

end Firsts

/-! ## The run over all routines -/

/-- The routines that a run over `sites` gets to write code for, where those in `seen` have been
dealt with. -/
def Site.firstMockable (seen : List String) (sites : List Site) : List Site :=
  firsts (·.info.entity) seen (sites.filter (·.isMockable))

namespace Site

variable {seen : List String} {s : Site} {rest : List Site}

theorem firstMockable_cons_of_not_mockable (h : s.isMockable = false) :
    firstMockable seen (s :: rest) = firstMockable seen rest := by
  simp [firstMockable, h]

theorem firstMockable_cons_of_seen (h : s.isMockable = true) (hseen : s.info.entity ∈ seen) :
    firstMockable seen (s :: rest) = firstMockable seen rest := by
  rw [firstMockable, List.filter_cons_of_pos h]
  exact firsts_cons_of_mem hseen

theorem firstMockable_cons_of_not_seen (h : s.isMockable = true) (hseen : s.info.entity ∉ seen) :
    firstMockable seen (s :: rest) = s :: firstMockable (s.info.entity :: seen) rest := by
  rw [firstMockable, List.filter_cons_of_pos h]
  exact firsts_cons_of_not_mem hseen

end Site

/-- A run that ends without a fault has code for what is collected, routine by routine, and passes
over nothing but unsupported types. -/
theorem entriesFrom_eq_ok {cfg : Config} {seen : List String} {sites : List Site}
    {entries : List Entry} (h : (entriesFrom cfg seen sites).result = .ok entries) :
    (∀ s ∈ Site.firstMockable seen sites, (∃ sig, (s.signature cfg).result = .ok sig) ∨
      ∃ spelling location,
        (s.signature cfg).result = .error (.unsupportedType spelling location)) ∧
    List.Forall₂ (fun sig e => sig.entry = .ok e)
      ((Site.firstMockable seen sites).filterMap fun s => (s.signature cfg).result.toOption)
      entries := by
  -- The cases are those of the run: none left, not mockable, seen before, and new.
  fun_induction entriesFrom cfg seen sites generalizing entries with
  | case1 =>
    obtain rfl := Except.ok.inj h
    exact ⟨by simp [Site.firstMockable], by simp [Site.firstMockable]⟩
  | case2 seen s rest hm ih =>
    rw [Site.firstMockable_cons_of_not_mockable (by simpa using hm)]
    rw [Report.result_bind_ok (Report.result_emit _)] at h
    exact ih h
  | case3 seen s rest hm hseen ih =>
    rw [Site.firstMockable_cons_of_seen (by simpa using hm) (by simpa using hseen)]
    exact ih h
  | case4 seen s rest hm hseen ih =>
    rw [Site.firstMockable_cons_of_not_seen (by simpa using hm) (by simpa using hseen)]
    simp only [Report.result_bind_eq_ok_iff, Report.result_pure] at h
    obtain ⟨code?, hcode, others, hothers, hentries⟩ := h
    obtain rfl := Except.ok.inj hentries
    obtain ⟨hsupported, hall⟩ := ih hothers
    rw [List.forall_mem_cons]
    rcases Site.entry?_eq_ok hcode with ⟨sig, e, hsig, he, rfl⟩ | ⟨spelling, location, hsig, rfl⟩
    · refine ⟨⟨.inl ⟨sig, hsig⟩, hsupported⟩, ?_⟩
      rw [List.filterMap_cons_some (by rw [hsig]; rfl)]
      exact .cons he hall
    · refine ⟨⟨.inr ⟨spelling, location, hsig⟩, hsupported⟩, ?_⟩
      rwa [List.filterMap_cons_none (by rw [hsig]; rfl)]

/-! ## The whole unit -/

namespace SourceUnit

variable (unit : SourceUnit)

/-- The routines found in a unit for which a mock can be generated. -/
def admitted : List Occurrence := unit.found.filter (·.IsAdmitted)

/-- The first of them for each entity. -/
def firstAdmitted : List Occurrence := firsts (·.info.entity) [] unit.admitted

/-- What is collected of them; those with unsupported types are left out. -/
def signatures (cfg : Config) : List Signature :=
  unit.firstAdmitted.filterMap fun o => (o.site.signature cfg).result.toOption

/-- The run over the routines of a unit gets to write code for those that the declarations leading
down to them single out. -/
theorem firstMockable_sites (h : unit.isPlain = true) :
    Site.firstMockable [] unit.sites = unit.firstAdmitted.map Occurrence.site := by
  have admitted : ∀ o ∈ unit.found, o.site.isMockable = decide o.IsAdmitted := by
    intro o ho
    have hfound : o.IsFound unit.path := by simpa using (List.mem_filter.mp ho).2
    rw [Bool.eq_iff_iff, hfound.isMockable_site_iff, decide_eq_true_iff]
  rw [Site.firstMockable, unit.sites_eq h, List.filter_map, Function.comp_def,
    List.filter_congr admitted, firsts_map]
  rfl

end SourceUnit

/-- Mocks, prototypes and implementations of a unit are those of its signatures, in the order of the
source: of the routines that are found in its file, for which a mock can be generated, and which are
the first of their entity, all that have supported types. -/
theorem generate_eq_reference {unit : SourceUnit} (hplain : unit.isPlain = true) {cfg : Config}
    {g : GeneratedUnit} (hg : (unit.generate cfg).result = .ok g) :
    (unit.signatures cfg).map Signature.mockText = g.mocks.map .ok ∧
    (unit.signatures cfg).map Signature.prototypesText = g.prototypes.map .ok ∧
    (unit.signatures cfg).map Signature.implementationsText = g.implementations.map .ok ∧
    ∀ o ∈ unit.firstAdmitted, (∃ sig, (o.site.signature cfg).result = .ok sig) ∨
      ∃ spelling location,
        (o.site.signature cfg).result = .error (.unsupportedType spelling location) := by
  simp only [SourceUnit.generate, Report.result_bind_eq_ok_iff, Report.result_pure] at hg
  obtain ⟨entries, hentries, hg⟩ := hg
  obtain rfl := Except.ok.inj hg
  obtain ⟨hsupported, hall⟩ := entriesFrom_eq_ok hentries
  rw [unit.firstMockable_sites hplain] at hsupported hall
  rw [List.filterMap_map] at hall
  have texts {text : Signature → Except SlotFault String} {part : Entry → String}
      (hpart : ∀ sig e, sig.entry = .ok e → text sig = .ok (part e)) :
      (unit.signatures cfg).map text = (entries.map part).map .ok := by
    rw [← List.forall₂_eq_eq_eq, List.map_map, List.forall₂_map_left_iff,
      List.forall₂_map_right_iff]
    exact hall.imp hpart
  exact ⟨texts fun sig e h => (Signature.entry_eq_ok_iff.mp h).1,
    texts fun sig e h => (Signature.entry_eq_ok_iff.mp h).2.1,
    texts fun sig e h => (Signature.entry_eq_ok_iff.mp h).2.2,
    fun o ho => hsupported o.site (List.mem_map_of_mem ho)⟩

/-- A unit where `m` of the class `C` is declared twice, `K` is a closed class, the first of two
declarations of `f` has an unsupported type, and `g` belongs to another file. -/
def SourceUnit.specimen : SourceUnit where
  path := "c.hpp"
  decls :=
    [{ info := { kind := .namespaceScope, spelling := "ns", file := some "c.hpp" }
       children :=
        [{ info := { kind := .classScope, spelling := "C", file := some "c.hpp" }
           children := [{ info := Site.specimen.info }, { info := Site.specimen.info }] },
         { info := { kind := .classScope, spelling := "K", access := .hidden, file := some "c.hpp" }
           children := [{ info := { Site.specimen.info with entity := "K::m" } }] }] },
     { info :=
        { kind := .routine .function, spelling := "f", file := some "c.hpp", entity := "f"
          result := { kind := .void }, args := [{ type := .invalid }] } },
     { info :=
        { kind := .routine .function, spelling := "f", file := some "c.hpp", entity := "f"
          result := { kind := .void } } },
     { info := { kind := .routine .function, spelling := "g", file := some "d.hpp" } }]

/-- Of the five routines found in the specimen, `m` and `f` remain, and `m` gets a mock. -/
theorem generate_eq_reference_specimen :
    ∃ g sig mock, SourceUnit.specimen.isPlain = true ∧
      (SourceUnit.specimen.generate {}).result = .ok g ∧
      SourceUnit.specimen.found.map (·.info.spelling) = ["m", "m", "m", "f", "f"] ∧
      SourceUnit.specimen.firstAdmitted.map (·.info.spelling) = ["m", "f"] ∧
      SourceUnit.specimen.signatures {} = [sig] ∧ sig.mockText = .ok mock ∧ g.mocks = [mock] := by
  obtain ⟨g, hg⟩ : ∃ g, (SourceUnit.specimen.generate {}).result = .ok g := ⟨_, rfl⟩
  obtain ⟨sig, hsig⟩ : ∃ sig, SourceUnit.specimen.signatures {} = [sig] := ⟨_, rfl⟩
  obtain ⟨hmocks, -⟩ := generate_eq_reference rfl hg
  rw [hsig] at hmocks
  obtain ⟨mock, hmock, htext⟩ := List.map_eq_singleton_iff.mp hmocks.symm
  exact ⟨g, sig, mock, rfl, hg, rfl, rfl, hsig, htext.symm, hmock⟩

end HeaderMock

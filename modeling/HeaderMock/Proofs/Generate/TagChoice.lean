import HeaderMock.Proofs.Generate.Entries
import HeaderMock.Proofs.Rendering.Tag

/-!
# The choice of type names

A configuration chooses whether objects are registered under the name of their type as it is
written, or under that of the record behind it. Nothing else that is generated for a unit, or
reported on the way, depends on this choice.

## Main definitions

* `SourceUnit.SameButTags`: the code for a unit under two configurations differs in the names alone.

## Main statements

* `Site.runsAlike_signature`: one declaration under either choice.
* `runsAlike_entriesFrom`: the run over all declarations, from what each of them does.
* `underlying_changes_only_tags`: types and units under either choice.
-/

namespace HeaderMock

/-- The configuration with another choice of type names. -/
def Config.withUnderlying (cfg : Config) (underlying : Bool) : Config := { cfg with underlying }

/-! ## One declaration -/

section Site

variable (cfg : Config) (u v : Bool)

theorem Argument.endsAlike_parameter (arg : Argument) (function : String) (index : Nat) :
    EndsAlike Parameter.SameButTag (arg.parameter (cfg.withUnderlying u) function index)
      (arg.parameter (cfg.withUnderlying v) function index) := by
  have classified : EndsAlike (Option.Rel Classification.SameButTag)
      ((arg.type.classifyArgument u).map some) ((arg.type.classifyArgument v).map some) :=
    (CType.endsAlike_classifyArgument u v arg.type).map fun _ _ h => .some h
  have resolved (w : Bool) : (cfg.withUnderlying w).resolveParameter function (arg.name index)
      arg.type.spelling = cfg.resolveParameter function (arg.name index) arg.type.spelling := rfl
  unfold Argument.parameter
  simp only [resolved]
  generalize cfg.resolveParameter function (arg.name index) arg.type.spelling = override
  have finish (c d : Option Classification) (hcd : Option.Rel Classification.SameButTag c d) :
      EndsAlike (ε := TypeFault) Parameter.SameButTag
        (do
          let target ← arg.type.target?
          return { name := arg.name index, typeSpelling := arg.type.spelling, classification := c
                   override, targetSpelling := target.map (·.spelling) })
        (do
          let target ← arg.type.target?
          return { name := arg.name index, typeSpelling := arg.type.spelling, classification := d
                   override, targetSpelling := target.map (·.spelling) }) := by
    refine EndsAlike.bind (.refl (fun _ => rfl) arg.type.target?) ?_
    rintro target _ rfl
    exact .ok ⟨hcd, rfl⟩
  split
  · exact EndsAlike.bind (.ok .none) finish
  · exact classified.bind finish

namespace Site

variable (s : Site)

theorem endsAlike_parameters :
    EndsAlike (List.Forall₂ Parameter.SameButTag) (s.parameters (cfg.withUnderlying u))
      (s.parameters (cfg.withUnderlying v)) := by
  refine EndsAlike.mapM (r := Eq) (List.forall₂_same.mpr fun _ _ => rfl) ?_
  rintro ⟨arg, i⟩ _ rfl
  exact arg.endsAlike_parameter cfg u v s.qualifiedName i

/-- Collecting reports the same events and ends in the same fault, or in signatures that differ in
the names of types alone. -/
theorem runsAlike_signature :
    (s.signature (cfg.withUnderlying u)).RunsAlike Signature.SameButTags
      (s.signature (cfg.withUnderlying v)) := by
  have same {α : Type} (x : Report α) : x.RunsAlike Eq x := .refl (fun _ => rfl) x
  refine Report.RunsAlike.bind (same (s.located (s.resultClassification? cfg))) ?_
  rintro result _ rfl
  refine Report.RunsAlike.bind
    (.ofExcept ((s.endsAlike_parameters cfg u v).mapError _)) fun ps qs hparameters => ?_
  refine Report.RunsAlike.bind (same s.checkVariadic) fun _ _ _ => ?_
  refine Report.RunsAlike.bind (same s.owner?) ?_
  rintro owner _ rfl
  refine Report.RunsAlike.bind (same s.exceptionSpec) ?_
  rintro spec _ rfl
  exact .pure ⟨hparameters, rfl⟩

end Site

end Site

/-- The entries are the code for one declaration under two configurations, whose signatures differ
in the names of types alone. -/
def Site.SameButTags (s : Site) (cfg cfg' : Config) (e e' : Entry) : Prop :=
  ∃ sig sig', (s.signature cfg).result = .ok sig ∧ (s.signature cfg').result = .ok sig' ∧
    sig.SameButTags sig' ∧ sig.entry = .ok e ∧ sig'.entry = .ok e'

/-- Code is written for both of two signatures that differ in the names of types alone, or for
neither. -/
theorem Signature.SameButTags.endsAlike_entry {sig sig' : Signature} (h : sig.SameButTags sig') :
    EndsAlike (fun _ _ => True) sig.entry sig'.entry := by
  have text {α : Type} {r : α → α → Prop} {x y : Except SlotFault α} (h : EndsAlike r x y)
      (f : α → String) : EndsAlike (fun _ _ => True) (x.map f) (y.map f) :=
    h.map fun _ _ _ => trivial
  refine (text h.endsAlike_mock Mock.render).bind fun _ _ _ => ?_
  refine (text h.endsAlike_helperHeads HelperHeads.prototypes).bind fun _ _ _ => ?_
  exact (text h.endsAlike_helpers Helpers.implementations).bind fun _ _ _ => .ok trivial

/-- One step of the run over all declarations. -/
theorem Site.runsAlike_entry? (s : Site) (cfg : Config) (u v : Bool) :
    (s.entry? (cfg.withUnderlying u)).RunsAlike
      (Option.Rel (s.SameButTags (cfg.withUnderlying u) (cfg.withUnderlying v)))
      (s.entry? (cfg.withUnderlying v)) := by
  obtain ⟨hevents, hresult⟩ := s.runsAlike_signature cfg u v
  generalize hx : (s.signature (cfg.withUnderlying u)).result = x,
    hy : (s.signature (cfg.withUnderlying v)).result = y at hresult
  cases hresult with
  | @ok sig sig' hsame =>
    rw [entry?_of_ok hx, entry?_of_ok hy]
    refine ⟨hevents, ?_⟩
    have hentry := hsame.endsAlike_entry
    generalize he : sig.entry = a, he' : sig'.entry = b at hentry
    cases hentry with
    | ok => exact .ok (.some ⟨sig, sig', hx, hy, hsame, he, he'⟩)
    | error fault => exact .error _
  | error fault =>
    by_cases hf : ∃ spelling location, fault = .unsupportedType spelling location
    · obtain ⟨spelling, location, rfl⟩ := hf
      rw [entry?_of_unsupported hx, entry?_of_unsupported hy]
      exact ⟨congrArg (· ++ _) hevents, .ok .none⟩
    · have hne : ∀ spelling location, fault ≠ .unsupportedType spelling location :=
        fun spelling location h => hf ⟨spelling, location, h⟩
      rw [entry?_of_error hx hne, entry?_of_error hy hne]
      exact ⟨hevents, .error _⟩

/-! ## The whole unit -/

/-- Steps that are alike make runs that are alike. -/
theorem runsAlike_entriesFrom {cfg cfg' : Config} {r : Entry → Entry → Prop} {sites : List Site}
    (h : ∀ s ∈ sites, (s.entry? cfg).RunsAlike (Option.Rel r) (s.entry? cfg'))
    (seen : List String) :
    (entriesFrom cfg seen sites).RunsAlike (List.Forall₂ r) (entriesFrom cfg' seen sites) := by
  induction sites generalizing seen with
  | nil => exact .pure .nil
  | cons s rest ih =>
    have hrest := ih fun x hx => h x (List.mem_cons_of_mem _ hx)
    rw [entriesFrom, entriesFrom]
    split
    · exact Report.RunsAlike.bind (.refl (r := Eq) (fun _ => rfl) _) fun _ _ _ => hrest seen
    split
    · exact hrest seen
    · refine Report.RunsAlike.bind (h s List.mem_cons_self) fun code code' hcode => ?_
      refine Report.RunsAlike.bind (hrest _) fun es es' hes => .pure ?_
      cases hcode with
      | none => exact hes
      | some hr => exact .cons hr hes

/-- The code for a unit under two configurations: as many declarations have code, their helpers are
declared in the same way, and their mocks and the definitions of their helpers differ in the names
of types alone. -/
structure SourceUnit.SameButTags (unit : SourceUnit) (cfg cfg' : Config) (g g' : GeneratedUnit) :
    Prop where
  length : g.mocks.length = g'.mocks.length
  prototypes : g.prototypes = g'.prototypes
  mocks : List.Forall₂ (fun text text' => ∃ s ∈ unit.sites, ∃ sig sig' mock mock',
    (s.signature cfg).result = .ok sig ∧ (s.signature cfg').result = .ok sig' ∧
      sig.mock = .ok mock ∧ sig'.mock = .ok mock' ∧ text = mock.render ∧ text' = mock'.render ∧
      mock.SameButTags mock') g.mocks g'.mocks
  implementations : List.Forall₂ (fun text text' => ∃ s ∈ unit.sites, ∃ sig sig' helpers helpers',
    (s.signature cfg).result = .ok sig ∧ (s.signature cfg').result = .ok sig' ∧
      sig.helpers = .ok helpers ∧ sig'.helpers = .ok helpers' ∧
      text = helpers.implementations ∧ text' = helpers'.implementations ∧
      helpers.SameButTags helpers') g.implementations g'.implementations

namespace Site.SameButTags

variable {s : Site} {cfg cfg' : Config} {e e' : Entry} (h : s.SameButTags cfg cfg' e e')

include h

theorem prototypes : e.prototypes = e'.prototypes := by
  obtain ⟨sig, sig', -, -, hsame, he, he'⟩ := h
  obtain ⟨heads, hheads, hp⟩ := map_eq_ok_iff.mp (Signature.entry_eq_ok_iff.mp he).2.1
  obtain ⟨heads', hheads', hsameHeads⟩ := hsame.endsAlike_helperHeads.exists_of_ok hheads
  have hp' := (Signature.entry_eq_ok_iff.mp he').2.1
  rw [Signature.prototypesText, hheads'] at hp'
  rw [← hp, hsameHeads.prototypes]
  exact Except.ok.inj hp'

theorem exists_mocks : ∃ sig sig' mock mock', (s.signature cfg).result = .ok sig ∧
    (s.signature cfg').result = .ok sig' ∧ sig.mock = .ok mock ∧ sig'.mock = .ok mock' ∧
    e.mock = mock.render ∧ e'.mock = mock'.render ∧ mock.SameButTags mock' := by
  obtain ⟨sig, sig', hs, hs', hsame, he, he'⟩ := h
  obtain ⟨mock, hmock, hm⟩ := map_eq_ok_iff.mp (Signature.entry_eq_ok_iff.mp he).1
  obtain ⟨mock', hmock', hsameMock⟩ := hsame.endsAlike_mock.exists_of_ok hmock
  have hm' := (Signature.entry_eq_ok_iff.mp he').1
  rw [Signature.mockText, hmock'] at hm'
  exact ⟨sig, sig', mock, mock', hs, hs', hmock, hmock', hm.symm, (Except.ok.inj hm').symm,
    hsameMock⟩

theorem exists_helpers : ∃ sig sig' helpers helpers', (s.signature cfg).result = .ok sig ∧
    (s.signature cfg').result = .ok sig' ∧ sig.helpers = .ok helpers ∧
    sig'.helpers = .ok helpers' ∧ e.implementations = helpers.implementations ∧
    e'.implementations = helpers'.implementations ∧ helpers.SameButTags helpers' := by
  obtain ⟨sig, sig', hs, hs', hsame, he, he'⟩ := h
  obtain ⟨helpers, hhelpers, hi⟩ := map_eq_ok_iff.mp (Signature.entry_eq_ok_iff.mp he).2.2
  obtain ⟨helpers', hhelpers', hsameHelpers⟩ := hsame.endsAlike_helpers.exists_of_ok hhelpers
  have hi' := (Signature.entry_eq_ok_iff.mp he').2.2
  rw [Signature.implementationsText, hhelpers'] at hi'
  exact ⟨sig, sig', helpers, helpers', hs, hs', hhelpers, hhelpers', hi.symm,
    (Except.ok.inj hi').symm, hsameHelpers⟩

end Site.SameButTags

/-- Entries that belong together one by one make units that belong together. -/
theorem SourceUnit.sameButTags_ofEntries {unit : SourceUnit} {cfg cfg' : Config}
    {es es' : List Entry}
    (h : List.Forall₂ (fun e e' => ∃ s ∈ unit.sites, s.SameButTags cfg cfg' e e') es es') :
    unit.SameButTags cfg cfg' (.ofEntries es) (.ofEntries es') where
  length := by simpa [GeneratedUnit.ofEntries] using h.length_eq
  prototypes := by
    show es.map _ = es'.map _
    rw [← List.forall₂_eq_eq_eq, List.forall₂_map_left_iff, List.forall₂_map_right_iff]
    exact h.imp fun _ _ ⟨_, _, hs⟩ => hs.prototypes
  mocks := by
    show List.Forall₂ _ (es.map _) (es'.map _)
    rw [List.forall₂_map_left_iff, List.forall₂_map_right_iff]
    exact h.imp fun _ _ ⟨s, hmem, hs⟩ => ⟨s, hmem, hs.exists_mocks⟩
  implementations := by
    show List.Forall₂ _ (es.map _) (es'.map _)
    rw [List.forall₂_map_left_iff, List.forall₂_map_right_iff]
    exact h.imp fun _ _ ⟨s, hmem, hs⟩ => ⟨s, hmem, hs.exists_helpers⟩

/-- Whether objects are registered under the name of the record behind a typedef changes nothing but
these names. A parameter type is unsupported for the same reason, or classified in the same way but
for the name. A unit reports the same events and ends in the same fault, or in code that differs in
the names alone: no head of a mock and no declaration of a helper shows them. -/
theorem underlying_changes_only_tags (unit : SourceUnit) (parameters types : OverrideTable) :
    (∀ t : CType, EndsAlike Classification.SameButTag (t.classifyArgument true)
      (t.classifyArgument false)) ∧
    (unit.generate ⟨true, parameters, types⟩).events =
      (unit.generate ⟨false, parameters, types⟩).events ∧
    EndsAlike (unit.SameButTags ⟨true, parameters, types⟩ ⟨false, parameters, types⟩)
      (unit.generate ⟨true, parameters, types⟩).result
      (unit.generate ⟨false, parameters, types⟩).result := by
  let cfg : Config := ⟨true, parameters, types⟩
  have steps : ∀ s ∈ unit.sites, (s.entry? (cfg.withUnderlying true)).RunsAlike
      (Option.Rel fun e e' => ∃ s ∈ unit.sites,
        s.SameButTags (cfg.withUnderlying true) (cfg.withUnderlying false) e e')
      (s.entry? (cfg.withUnderlying false)) := by
    intro s hs
    obtain ⟨hevents, hresult⟩ := s.runsAlike_entry? cfg true false
    refine ⟨hevents, hresult.imp fun _ _ hcode => ?_⟩
    cases hcode with
    | none => exact .none
    | some hsame => exact .some ⟨s, hs, hsame⟩
  have run := (runsAlike_entriesFrom steps []).bind (s := unit.SameButTags _ _) fun es es' hes =>
    Report.RunsAlike.pure (SourceUnit.sameButTags_ofEntries hes)
  exact ⟨CType.endsAlike_classifyArgument true false, run.events, run.result⟩

end HeaderMock

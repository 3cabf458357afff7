import HeaderMock.Proofs.Generate.Emitted
import HeaderMock.Proofs.Signature.Locality

/-!
# Code under one more override

One more option leaves the code of all declarations alone that have no slot which its key picks. An
option can give code to a declaration that had none before, but the others keep their code and their
order.

## Main statements

* `SourceUnit.filter_emitted_eq`: declarations that get the same code keep it in their order.
* `overrides_are_local`: what one more option changes, for slots, declarations and units.
-/

namespace HeaderMock

variable {unit : SourceUnit} {key : OverrideKey} {cfg cfg' : Config}

theorem Site.entry?_congr {s : Site} (h : s.signature cfg' = s.signature cfg) :
    s.entry? cfg' = s.entry? cfg := by
  rw [Site.entry?, Site.entry?, h]

namespace SourceUnit

/-- Names of parameters hold no sign that keys are made of. -/
def HasPlainNames (unit : SourceUnit) : Prop :=
  ∀ s ∈ unit.sites, ∀ arg ∈ s.info.args, arg.HasPlainName

/-- Declarations that get the same code keep it in their order, whatever the others get. -/
theorem filter_emitted_eq {p : Site → Bool}
    (h : ∀ s ∈ unit.visited, p s = true → s.code? cfg' = s.code? cfg) :
    (unit.emitted cfg').filter (fun x => p x.1) = (unit.emitted cfg).filter (fun x => p x.1) := by
  rw [emitted, emitted, List.filter_filterMap, List.filter_filterMap]
  apply List.filterMap_congr
  intro s hs
  cases hp : p s with
  | true => rw [h s hs hp]
  | false =>
    have dropped (code? : Option Entry) :
        (code?.map fun e => (s, e)).filter (fun x => p x.1) = none := by
      cases code? <;> simp [hp]
    rw [dropped, dropped]

/-- A unit that has code keeps having code, unless one of the declarations that change ends in a
fault. -/
theorem exists_generate {p : Site → Bool} (hg : ∃ g, (unit.generate cfg).result = .ok g)
    (hsame : ∀ s ∈ unit.visited, p s = false → s.entry? cfg' = s.entry? cfg)
    (hp : ∀ s ∈ unit.visited, p s = true → ∃ code?, (s.entry? cfg').result = .ok code?) :
    ∃ g, (unit.generate cfg').result = .ok g := by
  obtain ⟨g, hg⟩ := hg
  have hall := (generate_eq_ok_iff.mp hg).1
  refine ⟨_, generate_eq_ok_iff.mpr ⟨fun s hs => ?_, rfl⟩⟩
  cases hps : p s with
  | true => exact hp s hs hps
  | false =>
    rw [hsame s hs hps]
    exact hall s hs

end SourceUnit

/-- One more option changes, in the signatures of all declarations of a unit, the slots that its key
picks and nothing else; a key of a function leaves all other functions alone. Declarations without a
picked slot have the same code before and after, in the same order, and a unit gets or loses its
code as a whole only if a declaration with a picked slot ends in a fault. -/
theorem overrides_are_local (hnames : unit.HasPlainNames) (hkey : key.IsPlain)
    (h : Config.Extends key cfg cfg') :
    (∀ s ∈ unit.sites, s.VariesOnlyAt key cfg cfg' ∧
      (∀ sig sig', (s.signature cfg).result = .ok sig → (s.signature cfg').result = .ok sig' →
        s.AgreeOutside key cfg sig sig') ∧
      (key.picks cfg s = false → s.signature cfg' = s.signature cfg)) ∧
    (∀ function, (key = .result function ∨ ∃ name, key = .parameter function name) →
      ∀ s ∈ unit.sites, s.qualifiedName ≠ function → s.signature cfg' = s.signature cfg) ∧
    (∀ g g', (unit.generate cfg).result = .ok g → (unit.generate cfg').result = .ok g' →
      g = .ofEntries ((unit.emitted cfg).map Prod.snd) ∧
      g' = .ofEntries ((unit.emitted cfg').map Prod.snd) ∧
      (unit.emitted cfg').filter (fun x => !key.picks cfg x.1) =
        (unit.emitted cfg).filter (fun x => !key.picks cfg x.1)) ∧
    ((∃ g, (unit.generate cfg).result = .ok g) →
      (∀ s ∈ unit.sites, key.picks cfg s = true → ∃ code?, (s.entry? cfg').result = .ok code?) →
        ∃ g', (unit.generate cfg').result = .ok g') ∧
    ((∃ g', (unit.generate cfg').result = .ok g') →
      (∀ s ∈ unit.sites, key.picks cfg s = true → ∃ code?, (s.entry? cfg).result = .ok code?) →
        ∃ g, (unit.generate cfg).result = .ok g) := by
  have hvaries (s : Site) (hs : s ∈ unit.sites) : s.VariesOnlyAt key cfg cfg' :=
    h.variesOnlyAt hkey (hnames s hs)
  have hentry (s : Site) (hs : s ∈ unit.visited) (hp : key.picks cfg s = false) :
      s.entry? cfg' = s.entry? cfg :=
    Site.entry?_congr ((hvaries s (SourceUnit.mem_sites_of_mem_visited hs)).signature_eq hp)
  refine ⟨fun s hs => ?_, fun function hfunction s hs hne => ?_, fun g g' hg hg' => ?_, ?_, ?_⟩
  · exact ⟨hvaries s hs, fun sig sig' hsig hsig' => (hvaries s hs).agreeOutside hsig hsig',
      (hvaries s hs).signature_eq⟩
  · exact (hvaries s hs).signature_eq (OverrideKey.picks_eq_false_of_function_ne hfunction hne)
  · refine ⟨(SourceUnit.generate_eq_ok_iff.mp hg).2, (SourceUnit.generate_eq_ok_iff.mp hg').2, ?_⟩
    refine SourceUnit.filter_emitted_eq (p := fun s => !key.picks cfg s) fun s hs hp => ?_
    rw [Site.code?, Site.code?, hentry s hs (by simpa using hp)]
  · intro hg hp
    exact SourceUnit.exists_generate hg hentry fun s hs =>
      hp s (SourceUnit.mem_sites_of_mem_visited hs)
  · intro hg hp
    exact SourceUnit.exists_generate hg (fun s hs hps => (hentry s hs hps).symm) fun s hs =>
      hp s (SourceUnit.mem_sites_of_mem_visited hs)

instance (unit : SourceUnit) : Decidable unit.HasPlainNames :=
  inferInstanceAs (Decidable (∀ s ∈ unit.sites, ∀ arg ∈ s.info.args,
    '#' ∉ arg.spelling.toList ∧ '@' ∉ arg.spelling.toList))

/-- Skipping the parameter of `f` in the specimen gives code to `f`; `m` keeps its code. -/
theorem overrides_are_local_specimen :
    ∃ cfg cfg' m f, SourceUnit.specimen.HasPlainNames ∧
      (OverrideKey.parameter "f" "_unnamedArg0").IsPlain ∧
      Config.Extends (.parameter "f" "_unnamedArg0") cfg cfg' ∧
      (∃ g, (SourceUnit.specimen.generate cfg).result = .ok g) ∧
      (∃ g', (SourceUnit.specimen.generate cfg').result = .ok g') ∧
      SourceUnit.specimen.emitted cfg = [m] ∧ SourceUnit.specimen.emitted cfg' = [m, f] ∧
      m.1.info.spelling = "m" ∧ f.1.info.spelling = "f" := by
  let key := OverrideKey.parameter "f" "_unnamedArg0"
  let skipping : Config := { parameters := [("f#_unnamedArg0", { kind := .skip })] }
  have hnames : SourceUnit.specimen.HasPlainNames := by decide
  have hkey : key.IsPlain := by decide
  have hext : Config.Extends key {} skipping :=
    @Config.Extends.parameters key {} skipping false [] [] [] "f#_unnamedArg0=Skip"
      { kind := .skip } rfl (by decide) rfl rfl
  obtain ⟨g, hg⟩ : ∃ g, (SourceUnit.specimen.generate {}).result = .ok g := ⟨_, rfl⟩
  obtain ⟨g', hg'⟩ : ∃ g', (SourceUnit.specimen.generate skipping).result = .ok g' := ⟨_, rfl⟩
  obtain ⟨m, hm, hpm, hms⟩ : ∃ m, SourceUnit.specimen.emitted {} = [m] ∧
      key.picks {} m.1 = false ∧ m.1.info.spelling = "m" := ⟨_, rfl, rfl, rfl⟩
  obtain ⟨m', f, hm', hpm', hpf, hfs⟩ : ∃ m' f, SourceUnit.specimen.emitted skipping = [m', f] ∧
      key.picks {} m'.1 = false ∧ key.picks {} f.1 = true ∧ f.1.info.spelling = "f" :=
    ⟨_, _, rfl, rfl, rfl, rfl⟩
  obtain ⟨-, -, hsame⟩ := (overrides_are_local hnames hkey hext).2.2.1 g g' hg hg'
  obtain rfl : m' = m := by simpa [hm, hm', hpm, hpm', hpf] using hsame
  exact ⟨_, skipping, m', f, hnames, hkey, hext, ⟨g, hg⟩, ⟨g', hg'⟩, hm, hm', hms, hfs⟩

end HeaderMock

import HeaderMock.Proofs.Sequencing

/-!
# Computations side by side

Two computations that differ in one of their inputs are compared step by step: they report the same
events, and end in the same fault or in values that belong together.

## Main definitions

* `EndsAlike`: the same error, or related values.
* `Report.RunsAlike`: the same events besides.

## Main statements

* `EndsAlike.bind`, `EndsAlike.mapM`, `Report.RunsAlike.bind`: steps that are alike make
  computations that are alike.
-/

namespace HeaderMock

/-- Both end in the same error, or in values that `r` relates. -/
inductive EndsAlike {ε α β : Type} (r : α → β → Prop) : Except ε α → Except ε β → Prop where
  | ok {a : α} {b : β} (h : r a b) : EndsAlike r (.ok a) (.ok b)
  | error (e : ε) : EndsAlike r (.error e) (.error e)

namespace EndsAlike

variable {ε ε' α β γ δ : Type} {r : α → β → Prop} {s : γ → δ → Prop}
variable {x : Except ε α} {y : Except ε β}

theorem refl {r : α → α → Prop} (hr : ∀ a, r a a) (x : Except ε α) : EndsAlike r x x := by
  cases x with
  | ok a => exact .ok (hr a)
  | error e => exact .error e

theorem imp {r' : α → β → Prop} (h : EndsAlike r x y) (hr : ∀ a b, r a b → r' a b) :
    EndsAlike r' x y := by
  cases h with
  | ok h => exact .ok (hr _ _ h)
  | error e => exact .error e

theorem map {f : α → γ} {g : β → δ} (h : EndsAlike r x y) (hfg : ∀ a b, r a b → s (f a) (g b)) :
    EndsAlike s (x.map f) (y.map g) := by
  cases h with
  | ok h => exact .ok (hfg _ _ h)
  | error e => exact .error e

theorem mapError (h : EndsAlike r x y) (f : ε → ε') :
    EndsAlike r (x.mapError f) (y.mapError f) := by
  cases h with
  | ok h => exact .ok h
  | error e => exact .error (f e)

theorem bind {f : α → Except ε γ} {g : β → Except ε δ} (h : EndsAlike r x y)
    (hfg : ∀ a b, r a b → EndsAlike s (f a) (g b)) : EndsAlike s (x >>= f) (y >>= g) := by
  cases h with
  | ok h => exact hfg _ _ h
  | error e => exact .error e

/-- Members that belong together make lists of values that belong together. -/
theorem mapM {f : α → Except ε γ} {g : β → Except ε δ} {as : List α} {bs : List β}
    (h : List.Forall₂ r as bs) (hfg : ∀ a b, r a b → EndsAlike s (f a) (g b)) :
    EndsAlike (List.Forall₂ s) (as.mapM f) (bs.mapM g) := by
  induction h with
  | nil => exact .ok .nil
  | cons hr _ ih =>
    rw [List.mapM_cons, List.mapM_cons]
    exact (hfg _ _ hr).bind fun c d hcd => ih.bind fun cs ds hcds => .ok (.cons hcd hcds)

theorem exists_of_ok (h : EndsAlike r x y) {a : α} (hx : x = .ok a) : ∃ b, y = .ok b ∧ r a b := by
  cases h with
  | ok h =>
    obtain rfl := Except.ok.inj hx
    exact ⟨_, rfl, h⟩
  | error e => cases hx

end EndsAlike

namespace Report

variable {α β γ δ : Type} {r : α → β → Prop} {s : γ → δ → Prop}

/-- Both report the same events and end in the same fault, or in values that `r` relates. -/
structure RunsAlike (r : α → β → Prop) (x : Report α) (y : Report β) : Prop where
  events : x.events = y.events
  result : EndsAlike r x.result y.result

namespace RunsAlike

theorem refl {r : α → α → Prop} (hr : ∀ a, r a a) (x : Report α) : RunsAlike r x x :=
  ⟨rfl, .refl hr x.result⟩

theorem pure {a : α} {b : β} (h : r a b) : RunsAlike r (Pure.pure a) (Pure.pure b) :=
  ⟨rfl, .ok h⟩

theorem ofExcept {x : Except Fault α} {y : Except Fault β} (h : EndsAlike r x y) :
    RunsAlike r (Report.ofExcept x) (Report.ofExcept y) :=
  ⟨rfl, h⟩

theorem bind {x : Report α} {y : Report β} {f : α → Report γ} {g : β → Report δ}
    (h : RunsAlike r x y) (hfg : ∀ a b, r a b → RunsAlike s (f a) (g b)) :
    RunsAlike s (x >>= f) (y >>= g) := by
  obtain ⟨xevents, xresult⟩ := x
  obtain ⟨yevents, yresult⟩ := y
  obtain ⟨hevents, hresult⟩ := h
  show RunsAlike s (Report.bind _ f) (Report.bind _ g)
  cases hresult with
  | ok hr =>
    have next := hfg _ _ hr
    refine ⟨?_, next.result⟩
    simp only [Report.bind]
    rw [next.events]
    exact congrArg (· ++ _) hevents
  | error e => exact ⟨hevents, .error e⟩

end RunsAlike

end Report

end HeaderMock

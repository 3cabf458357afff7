import HeaderMock.Report
import Mathlib.Data.List.Forall2

/-!
# Sequences of computations

A computation made of steps ends in a value exactly when each of its steps does, and otherwise in
the error of the first step that fails. These facts take `Except` and `Report` computations apart
step by step.

## Main definitions

* `errorOf?`: the error of a computation that fails.

## Main statements

* `mapM_eq_ok_iff`, `errorOf?_mapM`: values and error of a sequence.
-/

namespace HeaderMock

section Except

variable {ε ε' α β : Type}

@[simp, grind =] theorem ok_bind (a : α) (f : α → Except ε β) : (.ok a >>= f) = f a := rfl

@[simp, grind =] theorem error_bind (e : ε) (f : α → Except ε β) :
    (.error e >>= f) = .error e := rfl

@[simp, grind =] theorem map_ok (f : α → β) (a : α) :
    (.ok a : Except ε α).map f = .ok (f a) := rfl

@[simp, grind =] theorem map_error (f : α → β) (e : ε) :
    (.error e : Except ε α).map f = .error e := rfl

@[simp, grind =] theorem mapError_ok (f : ε → ε') (a : α) :
    (.ok a : Except ε α).mapError f = .ok a := rfl

@[simp, grind =] theorem mapError_error (f : ε → ε') (e : ε) :
    (.error e : Except ε α).mapError f = .error (f e) := rfl

@[simp, grind =] theorem bind_eq_ok_iff {x : Except ε α} {f : α → Except ε β} {b : β} :
    (x >>= f) = .ok b ↔ ∃ a, x = .ok a ∧ f a = .ok b := by
  cases x <;> simp

@[simp, grind =] theorem bind_eq_error_iff {x : Except ε α} {f : α → Except ε β} {e : ε} :
    (x >>= f) = .error e ↔ x = .error e ∨ ∃ a, x = .ok a ∧ f a = .error e := by
  cases x <;> simp

@[simp, grind =] theorem pure_eq_ok_iff {a b : α} : (pure a : Except ε α) = .ok b ↔ a = b := by
  simp [pure, Except.pure]

@[simp, grind =] theorem map_eq_ok_iff {x : Except ε α} {f : α → β} {b : β} :
    x.map f = .ok b ↔ ∃ a, x = .ok a ∧ f a = b := by
  cases x <;> simp

@[simp, grind =] theorem mapError_eq_ok_iff {x : Except ε α} {f : ε → ε'} {a : α} :
    x.mapError f = .ok a ↔ x = .ok a := by
  cases x <;> simp

/-- A list of computations succeeds exactly when each of them does, value by value. -/
theorem mapM_eq_ok_iff {f : α → Except ε β} {as : List α} {bs : List β} :
    as.mapM f = .ok bs ↔ List.Forall₂ (fun a b => f a = .ok b) as bs := by
  induction as generalizing bs with
  | nil => cases bs <;> simp
  | cons a as ih =>
    rw [List.mapM_cons]
    constructor
    · intro h
      simp only [bind_eq_ok_iff, pure_eq_ok_iff] at h
      obtain ⟨b, hb, rest, hrest, rfl⟩ := h
      exact .cons hb (ih.mp hrest)
    · intro h
      cases h with
      | cons hb hrest => simp [hb, ih.mpr hrest]

theorem mapM_congr {f g : α → Except ε β} {as : List α} (h : ∀ a ∈ as, f a = g a) :
    as.mapM f = as.mapM g := by
  induction as with
  | nil => rfl
  | cons a as ih =>
    rw [List.mapM_cons, List.mapM_cons, h a (by simp), ih fun x hx => h x (by simp [hx])]

/-- Each value of a sequence belongs to one of its computations. -/
theorem exists_of_mem_of_forall₂ {r : α → β → Prop} {as : List α} {bs : List β} {b : β}
    (h : List.Forall₂ r as bs) (hb : b ∈ bs) : ∃ a ∈ as, r a b := by
  induction h with
  | nil => simp at hb
  | @cons a b' as bs hr _ ih =>
    rcases List.mem_cons.mp hb with rfl | hb
    · exact ⟨a, by simp, hr⟩
    · obtain ⟨a', ha', hr'⟩ := ih hb
      exact ⟨a', by simp [ha'], hr'⟩

theorem getElem?_of_forall₂ {r : α → β → Prop} {as : List α} {bs : List β} {i : Nat} {a : α}
    (h : List.Forall₂ r as bs) (ha : as[i]? = some a) : ∃ b, bs[i]? = some b ∧ r a b := by
  induction h generalizing i with
  | nil => simp at ha
  | @cons a' b as bs hr _ ih =>
    cases i with
    | zero =>
      obtain rfl : a' = a := by simpa using ha
      exact ⟨b, rfl, hr⟩
    | succ i => exact ih (by simpa using ha)

/-- The error of a computation that fails. -/
def errorOf? : Except ε α → Option ε
  | .error e => some e
  | .ok _ => none

@[simp, grind =] theorem errorOf?_error (e : ε) : errorOf? (.error e : Except ε α) = some e := rfl

@[simp, grind =] theorem errorOf?_ok (a : α) : errorOf? (.ok a : Except ε α) = none := rfl

@[simp, grind =] theorem errorOf?_eq_some_iff {x : Except ε α} {e : ε} :
    errorOf? x = some e ↔ x = .error e := by
  cases x <;> simp [errorOf?]

theorem errorOf?_eq_none_iff {x : Except ε α} : errorOf? x = none ↔ ∃ a, x = .ok a := by
  cases x <;> simp [errorOf?]

@[simp, grind =] theorem errorOf?_map (x : Except ε α) (f : α → β) :
    errorOf? (x.map f) = errorOf? x := by
  cases x <;> rfl

@[simp, grind =] theorem errorOf?_mapError (x : Except ε α) (f : ε → ε') :
    errorOf? (x.mapError f) = (errorOf? x).map f := by
  cases x <;> rfl

/-- Where the second step fails alike for all values, the first error counts. -/
theorem errorOf?_bind {x : Except ε α} {f : α → Except ε β} {e : Option ε}
    (h : ∀ a, errorOf? (f a) = e) : errorOf? (x >>= f) = (errorOf? x).or e := by
  cases x with
  | error e' => rfl
  | ok a => exact h a

/-- The error of a sequence is that of its first step that fails. -/
theorem errorOf?_mapM {f : α → Except ε β} {g : α → Option ε} {as : List α}
    (h : ∀ a ∈ as, errorOf? (f a) = g a) : errorOf? (as.mapM f) = as.findSome? g := by
  induction as with
  | nil => rfl
  | cons a as ih =>
    have hrest (b : β) : errorOf? (as.mapM f >>= fun bs => pure (b :: bs)) = as.findSome? g := by
      rw [errorOf?_bind (e := none) fun _ => rfl, ih fun x hx => h x (by simp [hx]),
        Option.or_none]
    rw [List.mapM_cons, List.findSome?_cons, errorOf?_bind hrest, h a (by simp)]
    cases g a <;> rfl

/-- Where exactly the computations for the elements that satisfy `p` give a value, the values of a
sequence belong to these elements, in their order. -/
theorem exists_mapM_filterMap {f : α → Except ε (Option β)} {p : α → Bool} {as : List α}
    (hsome : ∀ a ∈ as, p a = true → ∃ b, f a = .ok (some b))
    (hnone : ∀ a ∈ as, p a = false → f a = .ok none) :
    ∃ bs, (as.mapM f).map (·.filterMap id) = .ok bs ∧
      List.Forall₂ (fun a b => f a = .ok (some b)) (as.filter p) bs := by
  induction as with
  | nil => exact ⟨[], by simp, .nil⟩
  | cons a as ih =>
    obtain ⟨bs, hbs, hall⟩ :=
      ih (fun x hx => hsome x (by simp [hx])) fun x hx => hnone x (by simp [hx])
    obtain ⟨values, hv, rfl⟩ := map_eq_ok_iff.mp hbs
    cases ha : p a with
    | true =>
      obtain ⟨b, hb⟩ := hsome a (by simp) ha
      refine ⟨b :: values.filterMap id, ?_, ?_⟩
      · simp [List.mapM_cons, hb, hv]
      · rw [List.filter_cons_of_pos ha]
        exact .cons hb hall
    | false =>
      have hb := hnone a (by simp) ha
      refine ⟨values.filterMap id, ?_, ?_⟩
      · simp [List.mapM_cons, hb, hv]
      · rwa [List.filter_cons_of_neg (by simp [ha])]

end Except

namespace Report

variable {α β : Type}

@[simp, grind =] theorem result_ofExcept (x : Except Fault α) : (ofExcept x).result = x := rfl

@[simp, grind =] theorem result_fail (fault : Fault) :
    (fail fault : Report α).result = .error fault := rfl

@[grind =] theorem result_bind (x : Report α) (f : α → Report β) :
    (x >>= f).result = x.result >>= fun a => (f a).result := by
  show (x.bind f).result = _
  unfold Report.bind
  cases x.result <;> rfl

theorem result_bind_eq_ok_iff {x : Report α} {f : α → Report β} {b : β} :
    (x >>= f).result = .ok b ↔ ∃ a, x.result = .ok a ∧ (f a).result = .ok b := by
  rw [result_bind, bind_eq_ok_iff]

theorem result_bind_eq_error_iff {x : Report α} {f : α → Report β} {fault : Fault} :
    (x >>= f).result = .error fault ↔
      x.result = .error fault ∨ ∃ a, x.result = .ok a ∧ (f a).result = .error fault := by
  rw [result_bind]
  cases x.result <;> simp

end Report

end HeaderMock

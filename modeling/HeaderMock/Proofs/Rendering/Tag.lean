import HeaderMock.Expectation
import HeaderMock.Proofs.Slot.Tag

/-!
# Names of types in code

Signatures whose classifications differ in the names of types alone have mocks and helpers that
differ in these names alone. In particular the heads of the mocks and the declarations of the
helpers, which hold no such names, are the same.

## Main definitions

* `Signature.SameButTags`: signatures that differ in the names alone.
* `Mock.SameButTags`, `Helpers.SameButTags`: the same for the code.

## Main statements

* `Signature.SameButTags.endsAlike_mock`, `Signature.SameButTags.endsAlike_helpers`: the code for
  such signatures.
* `HelperHeads.SameButTags.prototypes`: the declarations of the helpers are the same.
-/

namespace HeaderMock

/-! ## Matchers and slots -/

/-- The reports differ in nothing but the name of the type. -/
structure ActualMatcher.SameButTag (a b : ActualMatcher) : Prop where
  method : a.method = b.method
  parameter : a.parameter = b.parameter
  exprs : a.exprs = b.exprs
  tag : a.tag?.isSome = b.tag?.isSome

theorem ActualMatcher.SameButTag.refl (a : ActualMatcher) : a.SameButTag a := ⟨rfl, rfl, rfl, rfl⟩

/-- The checks differ in nothing but the name of the type. -/
structure ExpectedMatcher.SameButTag (a b : ExpectedMatcher) : Prop where
  method : a.method = b.method
  parameter : a.parameter = b.parameter
  exprs : a.exprs = b.exprs
  tag : a.tag?.isSome = b.tag?.isSome

theorem ExpectedMatcher.SameButTag.refl (a : ExpectedMatcher) : a.SameButTag a :=
  ⟨rfl, rfl, rfl, rfl⟩

/-- The slots differ in nothing but the name of the type in their check. -/
structure HelperSlot.SameButTag (s t : HelperSlot) : Prop where
  matcher : s.matcher.SameButTag t.matcher
  rest : { s with matcher := t.matcher } = t

theorem HelperSlot.SameButTag.refl (s : HelperSlot) : s.SameButTag s := ⟨.refl _, rfl⟩

/-- No formal shows what its check looks like. -/
theorem HelperSlot.SameButTag.formals {s t : HelperSlot} (h : s.SameButTag t) :
    s.formals = t.formals := by
  rw [← h.rest]
  rfl

namespace Classification.SameButTag

variable {c d : Classification} (h : c.SameButTag d) (name : String)

include h

theorem kind : c.kind = d.kind := by
  rw [← h.rest]

theorem endsAlike_actualMatcher :
    EndsAlike ActualMatcher.SameButTag (c.actualMatcher name) (d.actualMatcher name) := by
  obtain ⟨tag, -, rfl⟩ := h.exists_tag
  unfold Classification.actualMatcher
  cases c.kind with
  | value kind => exact .ok (.refl _)
  | output => exact .ok (.refl _)
  | inputOfType => exact .ok ⟨rfl, rfl, rfl, rfl⟩
  | outputOfType => exact .ok ⟨rfl, rfl, rfl, rfl⟩
  | _ => exact .error _

theorem helperSlot : (c.helperSlot name).SameButTag (d.helperSlot name) := by
  obtain ⟨tag, -, rfl⟩ := h.exists_tag
  unfold Classification.helperSlot
  cases c.kind with
  | value kind => exact .refl _
  | output => exact .refl _
  | _ => exact ⟨⟨rfl, rfl, rfl, rfl⟩, rfl⟩

end Classification.SameButTag

theorem optionRel_refl {α : Type} {r : α → α → Prop} (hr : ∀ a, r a a) (x : Option α) :
    Option.Rel r x x := by
  cases x with
  | none => exact .none
  | some a => exact .some (hr a)

/-! ## Parameters -/

/-- The parameters differ in nothing but the name of the type in their classification. -/
structure Parameter.SameButTag (p q : Parameter) : Prop where
  classification : Option.Rel Classification.SameButTag p.classification q.classification
  rest : { p with classification := q.classification } = q

namespace Parameter.SameButTag

variable {p q : Parameter} (h : p.SameButTag q)

include h

theorem name : p.name = q.name := by
  rw [← h.rest]

theorem override : p.override = q.override := by
  rw [← h.rest]

theorem typeSpelling : p.typeSpelling = q.typeSpelling := by
  rw [← h.rest]

theorem pointedType : p.pointedType = q.pointedType := by
  rw [← h.rest]
  rfl

/-- Both are classified or neither is. -/
theorem classifications :
    (p.classification = none ∧ q.classification = none) ∨
      ∃ c d, p.classification = some c ∧ q.classification = some d ∧ c.SameButTag d := by
  have hc := h.classification
  generalize p.classification = x, q.classification = y at hc
  cases hc with
  | none => exact .inl ⟨rfl, rfl⟩
  | some hc => exact .inr ⟨_, _, rfl, rfl, hc⟩

theorem slotKind? : p.slotKind? = q.slotKind? := by
  unfold Parameter.slotKind?
  rw [h.override]
  rcases h.classifications with ⟨hp, hq⟩ | ⟨c, d, hp, hq, hc⟩
  · rw [hp, hq]
  · simp [hp, hq, hc.kind]

theorem isSkipped : p.isSkipped = q.isSkipped := by
  rw [Parameter.isSkipped, h.slotKind?, Parameter.isSkipped]

/-- The head of a mock shows how a parameter is declared, and not how it is handed over. -/
theorem declaration : p.declaration = q.declaration := by
  rw [Parameter.declaration, h.isSkipped, h.typeSpelling, h.name, Parameter.declaration]

theorem endsAlike_actualMatcher? :
    EndsAlike (Option.Rel ActualMatcher.SameButTag) p.actualMatcher? q.actualMatcher? := by
  unfold Parameter.actualMatcher?
  rw [h.override, h.name]
  cases q.override with
  | some o => exact .ok (optionRel_refl ActualMatcher.SameButTag.refl _)
  | none =>
    rcases h.classifications with ⟨hp, hq⟩ | ⟨c, d, hp, hq, hc⟩
    · rw [hp, hq]
      exact .error _
    · rw [hp, hq]
      exact (hc.endsAlike_actualMatcher q.name).map fun _ _ ha => .some ha

theorem helperSlot?_override (o : Override) : o.helperSlot? p = o.helperSlot? q := by
  unfold Override.helperSlot?
  rw [h.name, h.pointedType]

theorem endsAlike_helperSlot? :
    EndsAlike (Option.Rel HelperSlot.SameButTag) p.helperSlot? q.helperSlot? := by
  unfold Parameter.helperSlot?
  rw [h.isSkipped, h.override, h.name]
  cases q.isSkipped with
  | true => exact .ok .none
  | false =>
    cases q.override with
    | some o =>
      show EndsAlike _ (.ok (o.helperSlot? p)) (.ok (o.helperSlot? q))
      rw [h.helperSlot?_override o]
      exact .ok (optionRel_refl HelperSlot.SameButTag.refl _)
    | none =>
      rcases h.classifications with ⟨hp, hq⟩ | ⟨c, d, hp, hq, hc⟩
      · rw [hp, hq]
        exact .error _
      · rw [hp, hq]
        exact .ok (.some (hc.helperSlot q.name))

end Parameter.SameButTag

/-! ## Mocks and helpers -/

/-- The mocks differ in nothing but the names of types in their reports. -/
structure Mock.SameButTags (m n : Mock) : Prop where
  head : m.head = n.head
  readBack : m.readBack = n.readBack
  name : m.call.name = n.call.name
  receiver : m.call.receiver = n.call.receiver
  matchers : List.Forall₂ ActualMatcher.SameButTag m.call.matchers n.call.matchers

/-- The heads of helpers differ in nothing but the names of types in the checks of their slots. -/
structure HelperHeads.SameButTags (h k : HelperHeads) : Prop where
  slots : List.Forall₂ HelperSlot.SameButTag h.slots k.slots
  rest : { h with slots := k.slots } = k

/-- The helpers differ in nothing but the names of types in their checks. -/
structure Helpers.SameButTags (h k : Helpers) : Prop where
  heads : h.toHelperHeads.SameButTags k.toHelperHeads
  rest : { h with toHelperHeads := k.toHelperHeads } = k

/-- The signatures differ in nothing but the names of types in the classifications of their
parameters. -/
structure Signature.SameButTags (sig sig' : Signature) : Prop where
  parameters : List.Forall₂ Parameter.SameButTag sig.parameters sig'.parameters
  rest : { sig with parameters := sig'.parameters } = sig'

/-- No declaration of helpers shows what their checks look like. -/
theorem HelperHeads.SameButTags.prototypes {h k : HelperHeads} (hk : h.SameButTags k) :
    h.prototypes = k.prototypes := by
  have slots : h.slots.flatMap (·.formals) = k.slots.flatMap (·.formals) := by
    have := hk.slots
    generalize h.slots = xs, k.slots = ys at this
    induction this with
    | nil => rfl
    | cons hs _ ih => rw [List.flatMap_cons, List.flatMap_cons, hs.formals, ih]
  have formals : h.formals true = k.formals true := by
    rw [HelperHeads.formals, slots, ← hk.rest]
    rfl
  rw [HelperHeads.prototypes, HelperHeads.formalsMany, formals, ← hk.rest]
  rfl

/-- What belongs together in two lists of slots, some of them empty, still does without these. -/
theorem forall₂_filterMap_id {α : Type} {r : α → α → Prop} {as bs : List (Option α)}
    (h : List.Forall₂ (Option.Rel r) as bs) :
    List.Forall₂ r (as.filterMap id) (bs.filterMap id) := by
  induction h with
  | nil => exact .nil
  | cons hab _ ih =>
    cases hab with
    | none => simpa using ih
    | some hr => simpa using ⟨hr, ih⟩

namespace Signature.SameButTags

variable {sig sig' : Signature} (h : sig.SameButTags sig')

include h

theorem head : sig.head = sig'.head := by
  have declarations : sig.parameters.map (·.declaration) = sig'.parameters.map (·.declaration) := by
    rw [← List.forall₂_eq_eq_eq, List.forall₂_map_left_iff, List.forall₂_map_right_iff]
    exact h.parameters.imp fun _ _ hp => hp.declaration
  rw [Signature.head, declarations, ← h.rest]
  rfl

theorem endsAlike_actualMatchers :
    EndsAlike (List.Forall₂ ActualMatcher.SameButTag) sig.actualMatchers sig'.actualMatchers :=
  (EndsAlike.mapM h.parameters fun _ _ hp => hp.endsAlike_actualMatcher?).map
    fun _ _ hm => forall₂_filterMap_id hm

theorem endsAlike_helperSlots :
    EndsAlike (List.Forall₂ HelperSlot.SameButTag) sig.helperSlots sig'.helperSlots :=
  (EndsAlike.mapM h.parameters fun _ _ hp => hp.endsAlike_helperSlot?).map
    fun _ _ hs => forall₂_filterMap_id hs

theorem endsAlike_mock : EndsAlike Mock.SameButTags sig.mock sig'.mock := by
  have readBack : sig.readBack? = sig'.readBack? := by
    rw [← h.rest]
    rfl
  refine h.endsAlike_actualMatchers.bind fun ms ns hmatchers => ?_
  rw [readBack]
  refine EndsAlike.bind (.refl (fun _ => rfl) sig'.readBack?) fun r r' hr => .ok ?_
  subst hr
  refine ⟨h.head, rfl, ?_, ?_, hmatchers⟩
  · rw [← h.rest]
  · rw [← h.rest]
    rfl

theorem endsAlike_helperHeads :
    EndsAlike HelperHeads.SameButTags sig.helperHeads sig'.helperHeads := by
  have returnType : sig.returnType? = sig'.returnType? := by
    rw [← h.rest]
    rfl
  refine h.endsAlike_helperSlots.bind fun xs ys hslots => ?_
  rw [returnType]
  refine EndsAlike.bind (.refl (fun _ => rfl) sig'.returnType?) fun t t' ht => .ok ?_
  subst ht
  refine ⟨hslots, ?_⟩
  rw [← h.rest]
  rfl

theorem endsAlike_helpers : EndsAlike Helpers.SameButTags sig.helpers sig'.helpers := by
  have returnExpr : sig.returnExpr? = sig'.returnExpr? := by
    rw [← h.rest]
    rfl
  have skipping : sig.parameters.any (·.isSkipped) = sig'.parameters.any (·.isSkipped) := by
    have := h.parameters
    generalize sig.parameters = ps, sig'.parameters = qs at this
    induction this with
    | nil => rfl
    | cons hp _ ih => rw [List.any_cons, List.any_cons, hp.isSkipped, ih]
  refine h.endsAlike_helperHeads.bind fun k k' hheads => ?_
  rw [returnExpr]
  refine EndsAlike.bind (.refl (fun _ => rfl) sig'.returnExpr?) fun e e' he => .ok ?_
  subst he
  refine ⟨hheads, ?_⟩
  rw [skipping, ← h.rest]

end Signature.SameButTags

end HeaderMock

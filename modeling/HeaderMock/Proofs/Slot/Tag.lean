import HeaderMock.Proofs.Lockstep
import HeaderMock.Proofs.Slot.Range

/-!
# Names of types in classifications

Objects are registered under the name of their type as it is written, or under that of the record
behind it. Which of the two is chosen shows in the name alone: a type is supported or not, and is
handed over in the same way, whatever the choice.

## Main definitions

* `Classification.SameButTag`: classifications that differ in nothing but the name.

## Main statements

* `CType.endsAlike_classifyArgument`: the choice shows in the name alone.
-/

namespace HeaderMock

/-- The classifications differ in nothing but the name under which objects are registered, and one
has such a name if the other has. -/
structure Classification.SameButTag (c d : Classification) : Prop where
  tag : c.tag.isSome = d.tag.isSome
  rest : { c with tag := d.tag } = d

namespace Classification.SameButTag

theorem refl (c : Classification) : c.SameButTag c := ⟨rfl, rfl⟩

theorem exists_tag {c d : Classification} (h : c.SameButTag d) :
    ∃ tag, c.tag.isSome = tag.isSome ∧ d = { c with tag } :=
  ⟨d.tag, h.tag, h.rest.symm⟩

end Classification.SameButTag

namespace CType

open Classification

variable (u v : Bool)

theorem sameButTag_recordArgument (t : CType) :
    (t.recordArgument u).SameButTag (t.recordArgument v) :=
  ⟨rfl, rfl⟩

theorem endsAlike_targetArgument (target : CType) (rendered : String) (byReference : Bool) :
    EndsAlike SameButTag (target.targetArgument rendered byReference u)
      (target.targetArgument rendered byReference v) := by
  unfold targetArgument
  dsimp only
  by_cases hvoid : target.canonical.kind = .void
  · rw [if_pos hvoid, if_pos hvoid]
    exact .ok (.refl _)
  rw [if_neg hvoid, if_neg hvoid]
  -- Only records are registered under a name.
  by_cases hrecord : target.canonical.kind = .record
  · rw [if_pos hrecord, if_pos hrecord]
    exact .ok ⟨rfl, rfl⟩
  · rw [if_neg hrecord, if_neg hrecord]
    exact .refl SameButTag.refl _

theorem endsAlike_typedefArgument (t : CType) :
    EndsAlike SameButTag (t.typedefArgument u) (t.typedefArgument v) := by
  unfold typedefArgument
  dsimp only
  split
  · exact .ok (.refl _)
  split_ifs
  · exact .ok (.refl _)
  · exact .ok (sameButTag_recordArgument u v t)
  all_goals exact .refl SameButTag.refl _

theorem endsAlike_directArgument (t : CType) :
    EndsAlike SameButTag (t.directArgument u) (t.directArgument v) := by
  unfold directArgument
  dsimp only
  split
  · exact endsAlike_typedefArgument u v t
  split
  · exact .ok (.refl _)
  split_ifs
  · exact .ok (.refl _)
  · exact endsAlike_targetArgument u v t.pointee t.spelling false
  · refine (endsAlike_targetArgument u v t.pointee t.spelling true).map fun c d h => ?_
    exact ⟨h.tag, by rw [← h.rest]⟩
  · exact .refl SameButTag.refl _
  · exact .ok (sameButTag_recordArgument u v t)
  · exact .error _

/-- Whichever name is chosen for objects, a type is unsupported for the same reason, or classified
in the same way but for the name. The recursion looks through rvalue references to scalars. -/
theorem endsAlike_classifyArgument (t : CType) :
    EndsAlike SameButTag (t.classifyArgument u) (t.classifyArgument v) := by
  fun_induction classifyArgument u t with
  | case1 kind spelling isConst canonical? pointee named? element? isVariadic t hmoved ih =>
    rw [classifyArgument, if_pos hmoved]
    exact ih.map fun c d h => ⟨h.tag, by rw [← h.rest]⟩
  | case2 kind spelling isConst canonical? pointee named? element? isVariadic t hmoved =>
    rw [classifyArgument, if_neg hmoved]
    exact endsAlike_directArgument u v t
  | case3 t hpointee =>
    rw [classifyArgument]
    · exact endsAlike_directArgument u v t
    · exact hpointee

end CType

end HeaderMock

/-!
# Cutting texts

First occurrences, starts and ends of texts, as functions on lists of characters.

## Main definitions

* `cut`: the text before and after the first occurrence of a character.
* `cutText?`: the text before and after the first occurrence of a text.
* `dropStart?`: what follows a given start.
* `splitAll`: the pieces between the occurrences of a character.
-/

namespace HeaderMock.Text

/-- What stands before the first `sep`, and what stands after it if there is one. -/
def cut (sep : Char) : List Char → List Char × Option (List Char)
  | [] => ([], none)
  | c :: r =>
    if c = sep then ([], some r)
    else
      let (front, back) := cut sep r
      (c :: front, back)

/-- `dropStart? p s` is the rest of `s` after the start `p`, if `s` starts with `p`. -/
def dropStart? : List Char → List Char → Option (List Char)
  | [], s => some s
  | _ :: _, [] => none
  | p :: ps, c :: s => if p = c then dropStart? ps s else none

/-- What stands before and after the first occurrence of `sep` in a text, if there is one. -/
def cutText? (sep : List Char) : List Char → Option (List Char × List Char)
  | [] => (dropStart? sep []).map fun back => ([], back)
  | c :: r =>
    match dropStart? sep (c :: r) with
    | some back => some ([], back)
    | none => (cutText? sep r).map fun (front, back) => (c :: front, back)

/-- The pieces of a text between the occurrences of `sep`; there is always at least one. -/
def splitAll (sep : Char) : List Char → List (List Char)
  | [] => [[]]
  | c :: r =>
    if c = sep then [] :: splitAll sep r
    else
      match splitAll sep r with
      | [] => [[c]]
      | piece :: pieces => (c :: piece) :: pieces

/-- `s` starts with `p`. -/
def startsWith (s p : String) : Bool :=
  (dropStart? p.toList s.toList).isSome

/-- `s` ends with `c`. -/
def endsWithChar (s : String) (c : Char) : Bool :=
  s.toList.getLast? == some c

/-- `s` without the start `p`, or `s` itself if it starts otherwise. -/
def withoutStart (s p : String) : String :=
  match dropStart? p.toList s.toList with
  | some rest => String.ofList rest
  | none => s

/-- `cut` on strings. -/
def cutAt (sep : Char) (s : String) : String × Option String :=
  let (front, back) := cut sep s.toList
  (String.ofList front, back.map String.ofList)

@[simp, grind =] theorem dropStart?_eq_some_iff {p s r : List Char} :
    dropStart? p s = some r ↔ s = p ++ r := by
  induction p generalizing s with
  | nil => simp [dropStart?, eq_comm]
  | cons x p ih =>
    cases s with
    | nil => simp [dropStart?]
    | cons c s =>
      by_cases h : x = c
      · simp [dropStart?, h, ih]
      · simp [dropStart?, h, Ne.symm h]

theorem cut_of_notMem {sep : Char} {s : List Char} (h : sep ∉ s) : cut sep s = (s, none) := by
  induction s with
  | nil => rfl
  | cons c r ih =>
    simp only [List.mem_cons, not_or] at h
    simp [cut, Ne.symm h.1, ih h.2]

theorem cut_append {sep : Char} {front back : List Char} (h : sep ∉ front) :
    cut sep (front ++ sep :: back) = (front, some back) := by
  induction front with
  | nil => simp [cut]
  | cons c r ih =>
    simp only [List.mem_cons, not_or] at h
    simp [cut, Ne.symm h.1, ih h.2]

end HeaderMock.Text

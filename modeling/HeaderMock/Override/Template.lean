import HeaderMock.Text.Split

/-!
# Templates

A text with at most one place to fill, written as `$`.
-/

namespace HeaderMock

/-- The text before the place to fill, and the text after it if there is such a place. -/
structure Template where
  front : String := ""
  back? : Option String := none
  deriving Repr, DecidableEq

namespace Template

/-- The place to fill. -/
def placeholder : Char := '$'

/-- The template that is nothing but its place to fill. -/
def hole : Template := { front := "", back? := some "" }

/-- A text whose first `$` is the place to fill. -/
def ofText (s : String) : Template :=
  let (front, back?) := Text.cutAt placeholder s
  { front, back? }

/-- The text with `x` in its place. -/
def fill (t : Template) (x : String) : String :=
  match t.back? with
  | some back => t.front ++ x ++ back
  | none => t.front

@[simp, grind =] theorem fill_hole (x : String) : hole.fill x = x := by
  simp [hole, fill]

end Template

end HeaderMock

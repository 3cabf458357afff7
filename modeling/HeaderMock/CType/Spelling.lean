import HeaderMock.Text.Blank
import HeaderMock.Text.Split
import HeaderMock.Text.WordChar

/-!
# Type spellings

Rules on the text of a type.

## Main definitions

* `Spelling.bare`: a spelling without qualifiers, keywords and declarators around it.
* `Spelling.withoutConst`: a spelling without a leading `const`.
* `Spelling.constPointerTo`: the spelling of a pointer to the constant type.
* `Spelling.declare`: a variable of a type.
-/

namespace HeaderMock.Spelling

open Text

/-- The words that may stand in front of the name of a type. -/
def keywords : List String := ["const", "volatile", "struct", "class", "union", "enum"]

/-- Everything up to the first blank is a keyword; `rest` follows the blanks. -/
def dropKeyword? (s : List Char) : Option (List Char) :=
  match s.dropWhile (!isBlank ·) with
  | [] => none
  | _ :: rest =>
    if keywords.any (·.toList == s.takeWhile (!isBlank ·)) then some (trimLeft rest) else none

theorem length_trimLeft_le (s : List Char) : (trimLeft s).length ≤ s.length :=
  (List.dropWhile_suffix isBlank).length_le

theorem length_dropKeyword?_lt {s rest : List Char} (h : dropKeyword? s = some rest) :
    rest.length < s.length := by
  have hs := (List.dropWhile_suffix (l := s) (!isBlank ·)).length_le
  unfold dropKeyword? at h
  split at h
  · simp at h
  · next c r heq =>
    rw [heq, List.length_cons] at hs
    split at h
    · have := length_trimLeft_le r
      simp only [Option.some.injEq] at h
      subst h
      omega
    · simp at h

/-- A text without the keywords in front, each with the blanks after it. -/
def dropKeywords (s : List Char) : List Char :=
  match h : dropKeyword? s with
  | some rest =>
    have := length_dropKeyword?_lt h
    dropKeywords rest
  | none => s
termination_by s.length

/-- The whole word `word`, read from the end of a text. -/
def dropWordEnd? (word : String) (reversed : List Char) : Option (List Char) :=
  match dropStart? word.toList.reverse reversed with
  | some rest => if rest.head?.any isWordChar then none else some rest
  | none => none

/-- A pointer or reference sign or a qualifier, read from the end of a text. -/
def dropDeclarator? : List Char → Option (List Char)
  | '*' :: rest => some rest
  | '&' :: rest => some rest
  | s => (dropWordEnd? "const" s).or (dropWordEnd? "volatile" s)

theorem length_dropStart?_le {p s r : List Char} (h : dropStart? p s = some r) :
    r.length + p.length = s.length := by
  rw [dropStart?_eq_some_iff] at h
  simp [h, Nat.add_comm]

theorem length_dropWordEnd?_lt {word : String} {s rest : List Char} (hw : word.toList ≠ [])
    (h : dropWordEnd? word s = some rest) : rest.length < s.length := by
  unfold dropWordEnd? at h
  split at h
  · next r heq =>
    have := length_dropStart?_le heq
    have : 0 < word.toList.length := List.length_pos_iff.mpr hw
    simp only [List.length_reverse] at *
    split at h
    · simp at h
    · simp only [Option.some.injEq] at h
      subst h
      omega
  · simp at h

theorem length_dropDeclarator?_lt {s rest : List Char} (h : dropDeclarator? s = some rest) :
    rest.length < s.length := by
  unfold dropDeclarator? at h
  split at h
  · simp_all
  · simp_all
  · rcases Option.or_eq_some_iff.mp h with h | ⟨-, h⟩
    · exact length_dropWordEnd?_lt (by decide) h
    · exact length_dropWordEnd?_lt (by decide) h

/-- A reversed text without the declarators and blanks at its end. -/
def dropDeclarators (reversed : List Char) : List Char :=
  match h : dropDeclarator? (trimLeft reversed) with
  | some rest =>
    have := Nat.lt_of_lt_of_le (length_dropDeclarator?_lt h) (length_trimLeft_le reversed)
    dropDeclarators rest
  | none => trimLeft reversed
termination_by reversed.length

def bareChars (s : List Char) : List Char :=
  (dropDeclarators (dropKeywords (trim s)).reverse).reverse

/-- A spelling without the qualifiers and keywords in front of it and the pointer signs, reference
signs and qualifiers behind it. -/
def bare (s : String) : String := String.ofList (bareChars s.toList)

/-- A spelling without a leading `const`. -/
def withoutConst (s : String) : String := withoutStart s "const "

/-- The spelling of a pointer to the constant type `s`. -/
def constPointerTo (s : String) : String :=
  if endsWithChar s '*' then s ++ "const*" else "const " ++ s ++ "*"

/-- A variable `name` of type `s`: the name goes into the first `(*)`, or else in front of the
first bracket, or else behind the spelling. -/
def declare (s name : String) : String :=
  match cutText? "(*)".toList s.toList with
  | some (front, back) => String.ofList front ++ "(*" ++ name ++ ")" ++ String.ofList back
  | none =>
    match cut '[' s.toList with
    | (head, some tail) =>
      String.ofList (trimRight head) ++ " " ++ name ++ "[" ++ String.ofList tail
    | (_, none) => s ++ " " ++ name

end HeaderMock.Spelling

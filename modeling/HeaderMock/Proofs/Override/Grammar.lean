import HeaderMock.Proofs.Override.Key

/-!
# The grammar of overrides

An option is written

    key=TYPE[:ARG][~EXPECT_TYPE][/ARG_EXPR]

and is cut at the first `=`, then at the first `/`, `~` and `:`, which is not the order of its
parts. A part may hold the signs of others: an expression may hold all of them, an expected type `:`
and `~`, and an argument `:` and `=`. Exactly the texts of the grammar are accepted, each of them
has its parts in one way only, and they say what the override does.

## Main definitions

* `OverrideText`: the parts of a written override.
* `OverrideText.Fits`: the grammar, with the kind that a text names.
* `OverrideText.Denotes`: what an override does that is written with some parts.

## Main statements

* `OverrideText.ofText_text`: the parts of a text can be told from it.
* `OverrideText.Fits.exists_parse`: texts of the grammar are accepted and do what they say.
* `OverrideText.exists_fits_of_parse`: no other texts are accepted.
* `Override.parse_reads_grammar`: an option is accepted if and only if it belongs to the grammar.
-/

namespace HeaderMock

open Text

/-! ## Templates -/

/-- A text with `x` in the place of its first `c`. -/
def Text.replaceFirst (c : Char) (x : List Char) : List Char → List Char
  | [] => []
  | d :: r => if d = c then x ++ r else d :: replaceFirst c x r

theorem Text.replaceFirst_append {c : Char} {front : List Char} (h : c ∉ front)
    (x rest : List Char) :
    replaceFirst c x (front ++ rest) = front ++ replaceFirst c x rest := by
  induction front with
  | nil => rfl
  | cons d front ih =>
    simp only [List.mem_cons, not_or] at h
    simp [replaceFirst, Ne.symm h.1, ih h.2]

namespace Template

/-- The text `s` with `x` in the place of its first `$`. -/
def substitute (s x : String) : String :=
  String.ofList (replaceFirst placeholder x.toList s.toList)

@[simp, grind =] theorem fill_ofText (s x : String) : (ofText s).fill x = substitute s x := by
  cases h : cutAt placeholder s with
  | mk front back? =>
    obtain ⟨rfl, hfront⟩ := cutAt_eq_iff.mp h
    rw [← String.toList_inj, ofText, h, substitute, String.toList_append,
      replaceFirst_append hfront]
    cases back? <;> simp [fill, signed, replaceFirst]

@[simp, grind =] theorem isSome_back?_ofText {s : String} :
    (ofText s).back?.isSome = true ↔ placeholder ∈ s.toList := by
  cases h : cutAt placeholder s with
  | mk front back? =>
    obtain ⟨rfl, hfront⟩ := cutAt_eq_iff.mp h
    rw [ofText, h]
    cases back? <;> simp [signed, hfront]

end Template

/-! ## Parts of options -/

/-- The types that stand alone, with the kinds that they name. -/
def standaloneTypes : List (String × SlotKind) :=
  [("Bool", .value .bool), ("Int", .value .int), ("UnsignedInt", .value .unsignedInt),
   ("Long", .value .long), ("LongInt", .value .long), ("UnsignedLong", .value .unsignedLong),
   ("UnsignedLongInt", .value .unsignedLong), ("Double", .value .double),
   ("String", .value .string), ("Pointer", .value .pointer),
   ("ConstPointer", .value .constPointer), ("Output", .output), ("InputPOD", .inputPod),
   ("OutputPOD", .outputPod), ("Skip", .skip)]

/-- The types that take an argument, with the kinds that they name. -/
def parametricTypes : List (String × SlotKind) :=
  [("InputOfType", .inputOfType), ("OutputOfType", .outputOfType), ("MemoryBuffer", .memoryBuffer)]

/-- A type names a kind, together with its argument. -/
inductive NamesKind : String → Option String → SlotKind → Prop
  | standalone {type : String} {kind : SlotKind} :
      (type, kind) ∈ standaloneTypes → NamesKind type none kind
  | parametric {type arg : String} {kind : SlotKind} :
      (type, kind) ∈ parametricTypes → arg ≠ "" → NamesKind type (some arg) kind

/-- The names of types hold no sign that separates the parts. -/
theorem NamesKind.notMem {type : String} {arg? : Option String} {kind : SlotKind}
    (h : NamesKind type arg? kind) :
    ':' ∉ type.toList ∧ '~' ∉ type.toList ∧ '/' ∉ type.toList ∧ type ≠ "" := by
  have hall : ∀ e ∈ standaloneTypes ++ parametricTypes, ':' ∉ e.1.toList ∧ '~' ∉ e.1.toList ∧
      '/' ∉ e.1.toList ∧ e.1 ≠ "" := by decide
  cases h with
  | standalone hmem => exact hall _ (List.mem_append_left _ hmem)
  | parametric hmem _ => exact hall _ (List.mem_append_right _ hmem)

/-- The parts of a written override. -/
structure OverrideText where
  key : String
  type : String
  arg? : Option String := none
  expectType? : Option String := none
  expr? : Option String := none
  deriving Repr, DecidableEq

namespace OverrideText

def text (p : OverrideText) : String :=
  p.key ++ "=" ++ (p.type ++ signed ':' p.arg? ++ signed '~' p.expectType? ++ signed '/' p.expr?)

/-- The parts follow the grammar, and their type names `kind`. -/
structure Fits (p : OverrideText) (kind : SlotKind) : Prop where
  key_ne_empty : p.key ≠ ""
  notMem_key : '=' ∉ p.key.toList
  names : NamesKind p.type p.arg? kind
  notMem_arg : ∀ arg, p.arg? = some arg → '~' ∉ arg.toList ∧ '/' ∉ arg.toList
  expectType : ∀ type, p.expectType? = some type → type ≠ "" ∧ '/' ∉ type.toList
  mem_expr : ∀ expr, p.expr? = some expr → '$' ∈ expr.toList
  /-- Only values are given to results. -/
  result : p.key.toList.head? = some '@' ∨ p.key.toList.getLast? = some '@' →
    ∃ value, kind = .value value

/-- The override does what the parts say. -/
structure Denotes (p : OverrideText) (o : Override) : Prop where
  kind : NamesKind p.type p.arg? o.kind.slot
  typeName : o.kind.typeName? =
    if o.kind.slot = .inputOfType ∨ o.kind.slot = .outputOfType then p.arg? else none
  size : o.kind.slot = .memoryBuffer → ∀ name,
    p.arg?.map (Template.substitute · name) = some (o.kind.size.fill name)
  expectType : o.expectType = p.expectType?
  expr : ∀ name, o.expr.fill name = (p.expr?.map (Template.substitute · name)).getD name

/-! ## Telling the parts of a text -/

/-- The parts of a text, if it is one of the grammar. -/
def ofText (option : String) : OverrideText :=
  let (key, spec?) := cutAt '=' option
  let (rest, expr?) := cutAt '/' (spec?.getD "")
  let (front, expectType?) := cutAt '~' rest
  let (type, arg?) := cutAt ':' front
  { key, type, arg?, expectType?, expr? }

theorem notMem_signed {c sign : Char} {part? : Option String} (hc : c ≠ sign)
    (h : ∀ part, part? = some part → c ∉ part.toList) : c ∉ (signed sign part?).toList := by
  cases part? with
  | none => simp [signed]
  | some part => simp [signed, hc, h part rfl]

/-- Each cut of a text of the grammar comes upon the next part. -/
theorem Fits.cutAt_eq {p : OverrideText} {kind : SlotKind} (h : p.Fits kind) :
    cutAt '/' (p.type ++ signed ':' p.arg? ++ signed '~' p.expectType? ++ signed '/' p.expr?) =
        (p.type ++ signed ':' p.arg? ++ signed '~' p.expectType?, p.expr?) ∧
      cutAt '~' (p.type ++ signed ':' p.arg? ++ signed '~' p.expectType?) =
        (p.type ++ signed ':' p.arg?, p.expectType?) ∧
      cutAt ':' (p.type ++ signed ':' p.arg?) = (p.type, p.arg?) := by
  obtain ⟨hcolon, htilde, hslash, -⟩ := h.names.notMem
  have htilde' : '~' ∉ (signed ':' p.arg?).toList :=
    notMem_signed (by decide) fun arg harg => (h.notMem_arg arg harg).1
  have hslash' : '/' ∉ (signed ':' p.arg?).toList :=
    notMem_signed (by decide) fun arg harg => (h.notMem_arg arg harg).2
  have hslash'' : '/' ∉ (signed '~' p.expectType?).toList :=
    notMem_signed (by decide) fun type htype => (h.expectType type htype).2
  refine ⟨cutAt_eq_iff.mpr ⟨rfl, ?_⟩, cutAt_eq_iff.mpr ⟨rfl, ?_⟩, cutAt_eq_iff.mpr ⟨rfl, hcolon⟩⟩
  · simp [hslash, hslash', hslash'']
  · simp [htilde, htilde']

/-- The parts of a text of the grammar can be told from it. -/
theorem ofText_text {p : OverrideText} {kind : SlotKind} (h : p.Fits kind) : ofText p.text = p := by
  obtain ⟨hexpr, hexpect, harg⟩ := h.cutAt_eq
  have hkey : cutAt '=' p.text = (p.key, some (p.type ++ signed ':' p.arg? ++
      signed '~' p.expectType? ++ signed '/' p.expr?)) :=
    cutAt_eq_iff.mpr ⟨String.append_assoc .., h.notMem_key⟩
  simp only [ofText, hkey, Option.getD_some, hexpr, hexpect, harg]

end OverrideText

/-! ## What is accepted -/

namespace Override

theorem splitExpr_eq_ok_iff {spec front : String} {expr : Template} :
    splitExpr spec = .ok (front, expr) ↔
      ∃ expr?, cutAt '/' spec = (front, expr?) ∧ (∀ e, expr? = some e → '$' ∈ e.toList) ∧
        expr = (expr?.map Template.ofText).getD .hole := by
  unfold splitExpr
  cases hcut : cutAt '/' spec with
  | mk front' expr? =>
    cases expr? with
    | none => simp [eq_comm]
    | some e =>
      have hhole : (Template.ofText e).back?.isNone = true ↔ '$' ∉ e.toList := by
        rw [← Option.not_isSome, Bool.not_eq_true', Bool.eq_false_iff, Ne,
          Template.isSome_back?_ofText]
        rfl
      by_cases he : e = ""
      · simp [he]
      · by_cases hmem : '$' ∈ e.toList <;> simp [he, hhole, hmem, eq_comm]

theorem splitExpectType_eq_ok_iff {spec front : String} {type? : Option String} :
    splitExpectType spec = .ok (front, type?) ↔
      cutAt '~' spec = (front, type?) ∧ ∀ type, type? = some type → type ≠ "" := by
  unfold splitExpectType
  cases hcut : cutAt '~' spec with
  | mk front' type?' =>
    cases type?' with
    | none => grind
    | some type => by_cases htype : type = "" <;> grind

/-- The kind that a type names, together with its argument. -/
def kindOf? (type : String) : Option String → Option OverrideKind
  | none => simpleKinds.lookup type
  | some arg => if arg = "" then none else argumentKind? type arg

theorem ne_empty_of_kindOf? {type : String} {arg? : Option String} {kind : OverrideKind}
    (h : kindOf? type arg? = some kind) : type ≠ "" := by
  rintro rfl
  cases arg? with
  | none =>
    have hnone : kindOf? "" none = none := by decide
    rw [hnone] at h
    cases h
  | some arg => simp [kindOf?, argumentKind?] at h

theorem readKind_eq_ok_iff {spec type : String} {kind : OverrideKind} :
    readKind spec = .ok (type, kind) ↔
      ∃ arg?, cutAt ':' spec = (type, arg?) ∧ kindOf? type arg? = some kind := by
  constructor
  · intro h
    rw [readKind] at h
    cases hcut : cutAt ':' spec with
    | mk type' arg? =>
      simp only [hcut] at h
      split at h
      · cases h
      cases arg? with
      | none =>
        split at h
        · next found =>
          cases h
          exact ⟨none, rfl, found⟩
        · simp at h
        · cases h
      | some arg =>
        split at h
        · cases ‹some arg = none›
        · next found _ =>
          split at h
          · cases h
          · next hne =>
            cases h
            exact ⟨some arg, rfl, (if_neg hne).trans found⟩
        · cases h
  · rintro ⟨arg?, hcut, hkind⟩
    have htype := ne_empty_of_kindOf? hkind
    rw [readKind, hcut]
    cases arg? with
    | none =>
      have hsimple : simpleKinds.lookup type = some kind := hkind
      simp [htype, hsimple]
    | some arg =>
      simp only [kindOf?, Option.ite_none_left_eq_some] at hkind
      obtain ⟨harg, hkind⟩ := hkind
      simp [htype, harg, hkind]

/-- What is known of the kind that a type names. -/
theorem kindOf?_spec {type : String} {arg? : Option String} {kind : OverrideKind}
    (h : kindOf? type arg? = some kind) :
    NamesKind type arg? kind.slot ∧
      kind.typeName? =
        (if kind.slot = .inputOfType ∨ kind.slot = .outputOfType then arg? else none) ∧
      (kind.slot = .memoryBuffer → ∀ name,
        arg?.map (Template.substitute · name) = some (kind.size.fill name)) := by
  cases arg? with
  | none =>
    have hall : ∀ e ∈ simpleKinds, (e.1, e.2.slot) ∈ standaloneTypes ∧ e.2.typeName? = none ∧
        e.2.slot ≠ .memoryBuffer := by decide
    obtain ⟨l₁, l₂, hl, -⟩ := List.lookup_eq_some_iff.mp h
    obtain ⟨hmem, hname, hslot⟩ := hall (type, kind) (by simp [hl])
    exact ⟨.standalone hmem, by simpa using hname, fun heq => absurd heq hslot⟩
  | some arg =>
    simp only [kindOf?, Option.ite_none_left_eq_some, argumentKind?] at h
    obtain ⟨harg, h⟩ := h
    split at h
    · next htype =>
      cases h
      exact ⟨.parametric (by simp [htype, parametricTypes, OverrideKind.slot]) harg,
        by simp [OverrideKind.slot, OverrideKind.typeName?], by simp [OverrideKind.slot]⟩
    split at h
    · next htype =>
      cases h
      exact ⟨.parametric (by simp [htype, parametricTypes, OverrideKind.slot]) harg,
        by simp [OverrideKind.slot, OverrideKind.typeName?], by simp [OverrideKind.slot]⟩
    split at h
    · next htype =>
      cases h
      refine ⟨.parametric (by simp [htype, parametricTypes, OverrideKind.slot]) harg,
        by simp [OverrideKind.slot, OverrideKind.typeName?], fun _ name => ?_⟩
      simp [OverrideKind.size]
    · cases h

theorem exists_kindOf? {type : String} {arg? : Option String} {slot : SlotKind}
    (h : NamesKind type arg? slot) : ∃ kind, kindOf? type arg? = some kind ∧ kind.slot = slot := by
  cases h with
  | standalone hmem =>
    have hall : ∀ e ∈ standaloneTypes,
        (simpleKinds.lookup e.1).map OverrideKind.slot = some e.2 := by decide
    exact Option.map_eq_some_iff.mp (hall _ hmem)
  | @parametric arg _ hmem harg =>
    simp only [parametricTypes, List.mem_cons, Prod.mk.injEq, List.not_mem_nil, or_false] at hmem
    rcases hmem with ⟨rfl, rfl⟩ | ⟨rfl, rfl⟩ | ⟨rfl, rfl⟩
    · exact ⟨.inputOfType arg, by simp [kindOf?, argumentKind?, harg], rfl⟩
    · exact ⟨.outputOfType arg, by simp [kindOf?, argumentKind?, harg], rfl⟩
    · exact ⟨.memoryBuffer (.ofText arg), by simp [kindOf?, argumentKind?, harg], rfl⟩

theorem isResultKey_iff {key : String} :
    isResultKey key = true ↔ key.toList.head? = some '@' ∨ key.toList.getLast? = some '@' := by
  have hstart : startsWith key "@" = true ↔ key.toList.head? = some '@' := by
    cases h : key.toList with
    | nil => simp [startsWith, dropStart?, h]
    | cons c r =>
      by_cases hc : c = '@'
      · simp [startsWith, dropStart?, h, hc]
      · simp [startsWith, dropStart?, h, hc, Ne.symm hc]
  rw [isResultKey, Bool.or_eq_true, hstart, endsWithChar, beq_iff_eq]

end Override

/-- Texts of the grammar are accepted, and the override does what they say. -/
theorem OverrideText.Fits.exists_parse {p : OverrideText} {kind : SlotKind} (h : p.Fits kind) :
    ∃ o, Override.parse p.text = .ok (p.key, o) ∧ o.kind.slot = kind ∧ p.Denotes o := by
  obtain ⟨hexpr, hexpect, harg⟩ := h.cutAt_eq
  obtain ⟨k, hk, rfl⟩ := Override.exists_kindOf? h.names
  obtain ⟨hnames, htypeName, hsize⟩ := Override.kindOf?_spec hk
  obtain ⟨-, -, -, htype⟩ := h.names.notMem
  have hkey : Override.splitKey p.text = .ok (p.key, p.type ++ signed ':' p.arg? ++
      signed '~' p.expectType? ++ signed '/' p.expr?) :=
    Override.splitKey_eq_ok_iff.mpr ⟨rfl, h.notMem_key, h.key_ne_empty, by simp [htype]⟩
  have hvalue : Override.isResultKey p.key = true → k.slot.isValue = true := by
    intro hresult
    obtain ⟨value, hv⟩ := h.result (Override.isResultKey_iff.mp hresult)
    rw [hv]
    rfl
  have hsplitExpr := Override.splitExpr_eq_ok_iff.mpr ⟨_, hexpr, h.mem_expr, rfl⟩
  have hsplitExpect := Override.splitExpectType_eq_ok_iff.mpr
    ⟨hexpect, fun type heq => (h.expectType type heq).1⟩
  have hread := Override.readKind_eq_ok_iff.mpr ⟨_, harg, hk⟩
  let o : Override :=
    { kind := k, expr := (p.expr?.map Template.ofText).getD .hole, expectType := p.expectType? }
  have hparse : Override.parse p.text = .ok (p.key, o) :=
    Override.parse_eq_ok_iff.mpr ⟨_, _, _, _, hkey, hsplitExpr, hsplitExpect, hread, hvalue⟩
  refine ⟨o, hparse, rfl, hnames, htypeName, hsize, rfl, fun name => ?_⟩
  cases hexpr? : p.expr? <;> simp [o, hexpr?]

/-- What is accepted is a text of the grammar. -/
theorem OverrideText.exists_fits_of_parse {option key : String} {o : Override}
    (h : Override.parse option = .ok (key, o)) :
    ∃ p : OverrideText, p.Fits o.kind.slot ∧ p.text = option ∧ p.key = key := by
  obtain ⟨spec, rest, front, type, hkey, hexpr, hexpect, hkind, hvalue⟩ :=
    Override.parse_eq_ok_iff.mp h
  obtain ⟨rfl, hsep, hne, -⟩ := Override.splitKey_eq_ok_iff.mp hkey
  obtain ⟨expr?, hcutExpr, hplace, -⟩ := Override.splitExpr_eq_ok_iff.mp hexpr
  obtain ⟨hcutExpect, hexpectNe⟩ := Override.splitExpectType_eq_ok_iff.mp hexpect
  obtain ⟨arg?, hcutArg, hk⟩ := Override.readKind_eq_ok_iff.mp hkind
  obtain ⟨rfl, hslash⟩ := cutAt_eq_iff.mp hcutExpr
  obtain ⟨rfl, htilde⟩ := cutAt_eq_iff.mp hcutExpect
  obtain ⟨rfl, hcolon⟩ := cutAt_eq_iff.mp hcutArg
  refine ⟨⟨key, type, arg?, o.expectType, expr?⟩, ?_, rfl, rfl⟩
  exact
    { key_ne_empty := hne
      notMem_key := hsep
      names := (Override.kindOf?_spec hk).1
      notMem_arg := by
        rintro arg rfl
        simp only [signed, String.toList_append, List.mem_append, not_or] at hslash htilde
        exact ⟨htilde.2.2, hslash.1.2.2⟩
      expectType := by
        intro type' htype'
        have hsome : o.expectType = some type' := htype'
        simp only [hsome, signed, String.toList_append, List.mem_append, not_or] at hslash
        exact ⟨hexpectNe type' hsome, hslash.2.2⟩
      mem_expr := hplace
      result := by
        intro hresult
        have hslot := hvalue (Override.isResultKey_iff.mpr hresult)
        cases hkind : o.kind.slot with
        | value value => exact ⟨value, rfl⟩
        | _ => simp [hkind, SlotKind.isValue] at hslot }

/-- A refused option is quoted in the message. -/
theorem Override.exists_message_of_parse {option : String} {e : OverrideError}
    (h : parse option = .error e) : ∃ front back, e.message = front ++ option ++ back := by
  have hoption : e.option = option := by
    unfold parse at h
    cases hparts : parseParts option with
    | ok parts => simp [hparts] at h
    | error problem =>
      rw [hparts] at h
      cases h
      rfl
  exact ⟨e.problem.text ++ " <", ">.", by rw [OverrideError.message, hoption]⟩

/-- An option is accepted exactly if it belongs to the grammar. It then has its parts in one way
only and does what they say; every other option is refused with a message that quotes it. -/
theorem Override.parse_reads_grammar (option : String) :
    (∀ key, (∃ o, parse option = .ok (key, o)) ↔
      ∃ (p : OverrideText) (kind : SlotKind), p.Fits kind ∧ p.text = option ∧ p.key = key) ∧
    (∀ (p : OverrideText) (kind : SlotKind), p.Fits kind → p.text = option →
      (∀ (q : OverrideText) (kind' : SlotKind), q.Fits kind' → q.text = option → q = p) ∧
      ∃ o, parse option = .ok (p.key, o) ∧ o.kind.slot = kind ∧ p.Denotes o) ∧
    ((¬∃ (p : OverrideText) (kind : SlotKind), p.Fits kind ∧ p.text = option) →
      ∃ e front back, parse option = .error e ∧ e.message = front ++ option ++ back) := by
  refine ⟨fun key => ⟨?_, ?_⟩, ?_, ?_⟩
  · rintro ⟨o, h⟩
    obtain ⟨p, hp, htext, hkey⟩ := OverrideText.exists_fits_of_parse h
    exact ⟨p, o.kind.slot, hp, htext, hkey⟩
  · rintro ⟨p, kind, hp, rfl, rfl⟩
    obtain ⟨o, ho, -, -⟩ := hp.exists_parse
    exact ⟨o, ho⟩
  · rintro p kind hp rfl
    refine ⟨fun q kind' hq htext => ?_, hp.exists_parse⟩
    rw [← OverrideText.ofText_text hq, htext, OverrideText.ofText_text hp]
  · intro hnone
    cases h : parse option with
    | ok result =>
      obtain ⟨p, hp, htext, -⟩ := OverrideText.exists_fits_of_parse h
      exact absurd ⟨p, _, hp, htext⟩ hnone
    | error e =>
      obtain ⟨front, back, hmessage⟩ := exists_message_of_parse h
      exact ⟨e, front, back, rfl, hmessage⟩

/-- Parts that hold the signs of each other. -/
def OverrideText.crowded : OverrideText where
  key := "ns::f#raw"
  type := "MemoryBuffer"
  arg? := some "n::size=$:$"
  expectType? := some "a::b~c"
  expr? := some "(x~:=/)$/$"

theorem Override.parse_reads_grammar_crowded :
    OverrideText.crowded.Fits .memoryBuffer ∧
      OverrideText.crowded.text = "ns::f#raw=MemoryBuffer:n::size=$:$~a::b~c/(x~:=/)$/$" ∧
      ∃ o, parse "ns::f#raw=MemoryBuffer:n::size=$:$~a::b~c/(x~:=/)$/$" = .ok ("ns::f#raw", o) ∧
        o.kind.size.fill "raw" = "n::size=raw:$" ∧ o.expectType = some "a::b~c" ∧
        o.expr.fill "raw" = "(x~:=/)raw/$" := by
  have hfits : OverrideText.crowded.Fits .memoryBuffer :=
    { key_ne_empty := by decide
      notMem_key := by decide
      names := .parametric (by decide) (by decide)
      notMem_arg := by
        rintro arg h
        obtain rfl := Option.some.inj h
        decide
      expectType := by
        rintro type h
        obtain rfl := Option.some.inj h
        decide
      mem_expr := by
        rintro expr h
        obtain rfl := Option.some.inj h
        decide
      result := fun h => absurd h (by decide) }
  have htext : OverrideText.crowded.text =
      "ns::f#raw=MemoryBuffer:n::size=$:$~a::b~c/(x~:=/)$/$" := by decide
  obtain ⟨-, hread, -⟩ :=
    parse_reads_grammar "ns::f#raw=MemoryBuffer:n::size=$:$~a::b~c/(x~:=/)$/$"
  obtain ⟨-, o, ho, hkind, hdenotes⟩ := hread _ _ hfits htext
  have hsize : some "n::size=raw:$" = some (o.kind.size.fill "raw") := hdenotes.size hkind "raw"
  exact ⟨hfits, htext, o, ho, (Option.some.inj hsize).symm, hdenotes.expectType,
    hdenotes.expr "raw"⟩

end HeaderMock

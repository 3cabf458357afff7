import HeaderMock.Expectation
import HeaderMock.Proofs.CType.Brackets

/-!
# Brackets in code

The forms of generated code are balanced where the texts put into them are: expressions, matchers,
statements, mocks and helpers. Each form has a predicate that says so of all its texts.

## Main definitions

* `Template.text`: a template without anything in its place.
* `Wrap.IsBalanced`, `Expr.IsBalanced`, `ActualMatcher.IsBalanced`, `ExpectedMatcher.IsBalanced`,
  `Statement.IsBalanced`, `HelperSlot.IsBalanced`, `HelperHeads.IsBalanced`, `Helpers.IsBalanced`,
  `Mock.IsBalanced`: all texts of a form are balanced.

## Main statements

* `Mock.IsBalanced.render`, `HelperHeads.IsBalanced.prototypes`,
  `Helpers.IsBalanced.implementations`: the code is balanced.
-/

namespace HeaderMock

open Text

/-! ## Lists -/

theorem forall_mem_pair {α : Type} {P : α → Prop} {a b : α} (ha : P a) (hb : P b) :
    ∀ x ∈ [a, b], P x :=
  List.forall_mem_cons.mpr ⟨ha, List.forall_mem_singleton.mpr hb⟩

theorem forall_mem_ite {α : Type} {P : α → Prop} {c : Prop} [Decidable c] {a : α} (h : P a) :
    ∀ x ∈ if c then [a] else [], P x := by
  split
  · exact List.forall_mem_singleton.mpr h
  · nofun

/-! ## Text -/

/-- `f(args)` -/
theorem balanced_call {f args : String} (hf : Balanced f) (hargs : Balanced args) :
    Balanced (f ++ "(" ++ args ++ ")") := by
  refine .insert ?_ hargs
  rw [String.append_assoc]
  exact hf.append (by decide)

theorem balanced_quoted {s : String} (h : Balanced s) : Balanced (quoted s) :=
  .insert (by decide) h

theorem balanced_methodCall {method : String} {args : List String} (hmethod : Balanced method)
    (hargs : ∀ a ∈ args, Balanced a) : Balanced (methodCall method args) :=
  balanced_call (.append (by decide) hmethod) (.intercalate (by decide) hargs)

theorem balanced_nameOrNone {name : Option String} (h : ∀ s ∈ name, Balanced s) :
    Balanced (nameOrNone name) := by
  cases name with
  | none => decide
  | some s => exact h s rfl

theorem ValueKind.balanced_apiName (kind : ValueKind) : Balanced kind.apiName := by
  cases kind <;> decide

namespace Layout

@[simp, grind =] theorem brackets_indent (s : String) : brackets (indent s) = brackets s := by
  have hspaces (n : Nat) : (List.replicate n ' ').filter isBracket = [] := by
    simp [isBracket, closing?, isClosing]
  rw [indent, indentSteps, brackets_ofList, indentBy, List.filter_append, hspaces, List.nil_append,
    brackets]
  induction s.toList with
  | nil => rfl
  | cons c s ih =>
    rw [List.flatMap_cons, List.filter_append, ih]
    split
    · next hc =>
      subst hc
      simp [hspaces, isBracket, closing?, isClosing]
    · rw [← List.filter_append]
      rfl

theorem balanced_block {statements : List String} (h : ∀ s ∈ statements, Balanced s) :
    Balanced (block statements) := by
  refine .insert (by decide) (.join ?_)
  simp only [List.mem_map]
  rintro _ ⟨s, hs, rfl⟩
  exact ((balanced_congr (brackets_indent s)).mpr (h s hs)).append (by decide)

theorem balanced_commaSeparated {items : List String} (h : ∀ s ∈ items, Balanced s) :
    Balanced (commaSeparated items) :=
  .intercalate (by decide) h

end Layout

/-- Blocks inside one another, each behind a name. -/
theorem nested_blocks {x : List Char} (hx : Nested x) {names : List String}
    (hnames : ∀ name ∈ names, Balanced name) :
    Nested (names.flatMap (fun name => brackets name ++ ['\x7b']) ++ x ++
      List.replicate names.length '\x7d') := by
  induction names with
  | nil => simpa using hx
  | cons name names ih =>
    have hname : Nested (brackets name) := balanced_iff_nested_brackets.mp (hnames name (by simp))
    have hpair := Nested.pair (o := '\x7b') rfl (ih fun n hn => hnames n (by simp [hn])) .nil
    simpa [List.replicate_succ'] using hname.append hpair

/-- Each namespace that is opened is closed again. -/
theorem balanced_inExpectNamespaces {content : String} {names : List String}
    (hcontent : Balanced content) (hnames : ∀ name ∈ names, Balanced name) :
    Balanced (inExpectNamespaces content names) := by
  have hall : ∀ name ∈ expectNamespaces names, Balanced name := by
    simp only [expectNamespaces, List.mem_cons, List.mem_map]
    rintro _ (rfl | ⟨name, hname, rfl⟩)
    · decide
    · exact (hnames name hname).append (by decide)
  have hopen (name : String) : brackets ("namespace " ++ name ++ " \x7b") =
      brackets name ++ ['\x7b'] := by
    have hword : brackets "namespace " = [] := by decide
    have hbrace : brackets " \x7b" = ['\x7b'] := by decide
    simp [hword, hbrace]
  have hspace : brackets " " = [] := by decide
  have hline : brackets "\n" = [] := by decide
  have hclose (n : Nat) : (List.replicate n "\x7d").flatMap brackets = List.replicate n '\x7d' := by
    induction n with
    | zero => rfl
    | succ n ih => rw [List.replicate_succ, List.flatMap_cons, ih]; rfl
  have hnested := nested_blocks (balanced_iff_nested_brackets.mp hcontent) hall
  rw [balanced_iff_nested_brackets, inExpectNamespaces]
  simpa [brackets_intercalate hspace, List.flatMap_map, hopen, hline, hclose] using hnested

/-! ## Expressions -/

/-- The text around the place to fill. -/
def Template.text (t : Template) : String := t.front ++ t.back?.getD ""

theorem Template.balanced_fill {t : Template} {x : String} (h : Balanced t.text)
    (hx : Balanced x) : Balanced (t.fill x) := by
  unfold fill
  cases hback : t.back? with
  | none => simpa [text, hback] using h
  | some back => exact .insert (by simpa [text, hback] using h) hx

/-- All texts put around an expression are balanced. -/
def Wrap.IsBalanced : Wrap → Prop
  | .staticCast type | .constCast type => Balanced type
  | .inside template => Balanced template.text
  | _ => True

theorem Wrap.IsBalanced.apply {w : Wrap} (h : w.IsBalanced) {e : String} (he : Balanced e) :
    Balanced (w.apply e) := by
  cases w with
  | addressOf | deref => exact .append (by decide) he
  | getValue => exact he.append (by decide)
  | move | sizeOfTarget => exact .insert (by decide) he
  | staticCast | constCast => exact .insert₂ (by decide) h he
  | inside => exact Template.balanced_fill h he

theorem Wrap.balanced_applyAll {wraps : List Wrap} (h : ∀ w ∈ wraps, w.IsBalanced) {e : String}
    (he : Balanced e) : Balanced (Wrap.applyAll wraps e) := by
  unfold applyAll
  induction wraps generalizing e with
  | nil => exact he
  | cons w wraps ih =>
    exact ih (fun w' hw' => h w' (by simp [hw'])) ((h w (by simp)).apply he)

/-- All texts of the expression are balanced. -/
structure Expr.IsBalanced (e : Expr) : Prop where
  base : Balanced e.base
  wraps : ∀ w ∈ e.wraps, w.IsBalanced

namespace Expr.IsBalanced

variable {e : Expr} {w : Wrap}

theorem render (h : e.IsBalanced) : Balanced e.render := Wrap.balanced_applyAll h.wraps h.base

theorem wrap (h : e.IsBalanced) (hw : w.IsBalanced) : (e.wrap w).IsBalanced := by
  refine ⟨h.base, fun w' hw' => ?_⟩
  obtain hmem | rfl := by simpa [Expr.wrap] using hw'
  · exact h.wraps w' hmem
  · exact hw

theorem wrapIf (h : e.IsBalanced) {b : Bool} (hw : b = true → w.IsBalanced) :
    (e.wrapIf b w).IsBalanced := by
  cases b with
  | false => exact h
  | true => exact h.wrap (hw rfl)

theorem staticCast (h : e.IsBalanced) {type : String} (htype : Balanced type) :
    (e.wrap (.staticCast type)).IsBalanced :=
  h.wrap htype

theorem asBytes (h : e.IsBalanced) : e.asBytes.IsBalanced :=
  (h.staticCast (by decide)).staticCast (by decide)

end Expr.IsBalanced

theorem Expr.isBalanced_base {name : String} (h : Balanced name) : (Expr.mk name []).IsBalanced :=
  ⟨h, nofun⟩

theorem Helper.isBalanced_argument {name : String} (h : Balanced name) :
    (Helper.argument name).IsBalanced :=
  (Expr.isBalanced_base h).wrap (w := .getValue) trivial

/-! ## Matchers -/

/-- A call with quoted names and expressions. -/
theorem balanced_matcherCall {method parameter : String} {tag? : Option String} {exprs : List Expr}
    (hmethod : Balanced method) (hparameter : Balanced parameter)
    (htag : ∀ tag ∈ tag?, Balanced tag) (hexprs : ∀ e ∈ exprs, e.IsBalanced) :
    Balanced (methodCall method
      ((tag?.toList ++ [parameter]).map quoted ++ exprs.map Expr.render)) := by
  refine balanced_methodCall hmethod ?_
  simp only [List.map_append, List.mem_append, List.mem_map, Option.mem_toList,
    List.mem_singleton]
  rintro _ ((⟨tag, ht, rfl⟩ | ⟨_, rfl, rfl⟩) | ⟨e, he, rfl⟩)
  · exact balanced_quoted (htag tag ht)
  · exact balanced_quoted hparameter
  · exact (hexprs e he).render

/-- All texts of the matcher are balanced. -/
structure ActualMatcher.IsBalanced (m : ActualMatcher) : Prop where
  parameter : Balanced m.parameter
  tag : ∀ tag ∈ m.tag?, Balanced tag
  exprs : ∀ e ∈ m.exprs, e.IsBalanced

theorem ActualMatcher.IsBalanced.render {m : ActualMatcher} (h : m.IsBalanced) :
    Balanced m.render := by
  refine balanced_matcherCall ?_ h.parameter h.tag h.exprs
  cases m with
  | value kind => exact .insert (by decide) kind.balanced_apiName
  | output | inputOfType | outputOfType | memoryBuffer =>
    dsimp only [method]
    decide

/-- All texts of the matcher are balanced. -/
structure ExpectedMatcher.IsBalanced (m : ExpectedMatcher) : Prop where
  parameter : Balanced m.parameter
  tag : ∀ tag ∈ m.tag?, Balanced tag
  exprs : ∀ e ∈ m.exprs, e.IsBalanced

theorem ExpectedMatcher.IsBalanced.render {m : ExpectedMatcher} (h : m.IsBalanced) :
    Balanced m.render := by
  refine balanced_matcherCall ?_ h.parameter h.tag h.exprs
  cases m with
  | value kind => exact .insert (by decide) kind.balanced_apiName
  | outputReturning | inputOfType | outputOfTypeReturning | memoryBuffer =>
    dsimp only [method]
    decide

/-! ## Mocks -/

/-- All texts of the mock are balanced. -/
structure Mock.IsBalanced (m : Mock) : Prop where
  head : Balanced m.head
  name : Balanced m.call.name
  receiver : ∀ e ∈ m.call.receiver, e.IsBalanced
  matchers : ∀ a ∈ m.call.matchers, a.IsBalanced
  readBack : ∀ r ∈ m.readBack, ∀ w ∈ r.wraps, w.IsBalanced

namespace Mock.IsBalanced

variable {m : Mock}

theorem call (h : m.IsBalanced) : Balanced m.call.render := by
  unfold ActualCall.render
  have hname : Balanced (methodCall "actualCall" [quoted m.call.name]) :=
    balanced_methodCall (by decide) (by simpa using balanced_quoted h.name)
  refine ((Balanced.append (by decide) hname).append (.join ?_)).append (.join ?_)
  · simp only [List.mem_map, Option.mem_toList]
    rintro _ ⟨e, he, rfl⟩
    exact balanced_methodCall (by decide) (by simpa using (h.receiver e he).render)
  · simp only [List.mem_map]
    rintro _ ⟨a, ha, rfl⟩
    exact (h.matchers a ha).render

theorem statement (h : m.IsBalanced) : Balanced m.statement := by
  unfold Mock.statement
  split
  · next r hr =>
    have hmethod : Balanced ("return" ++ r.kind.apiName ++ "Value") :=
      .insert (by decide) r.kind.balanced_apiName
    have hanswer :
        Balanced (m.call.render ++ methodCall ("return" ++ r.kind.apiName ++ "Value") []) :=
      h.call.append (balanced_methodCall hmethod nofun)
    exact .insert (by decide) (Wrap.balanced_applyAll (h.readBack r hr) hanswer)
  · exact h.call.append (by decide)

theorem render (h : m.IsBalanced) : Balanced m.render :=
  (h.head.append (by decide)).append (Layout.balanced_block (by simpa using h.statement))

end Mock.IsBalanced

/-! ## Helpers -/

/-- All texts of the statement are balanced. -/
def Statement.IsBalanced : Statement → Prop
  | .openCall name => Balanced name
  | .onObject owner => Balanced owner
  | .check matcher => matcher.IsBalanced
  | .checkUnlessIgnored arg matcher | .checkOrFlag arg matcher => Balanced arg ∧ matcher.IsBalanced
  | .andReturn e => e.IsBalanced
  | _ => True

namespace Statement

theorem balanced_onCall {call : String} (h : Balanced call) : Balanced (onCall call) :=
  .insert (by decide) h

theorem balanced_braced {s : String} (h : Balanced s) : Balanced (braced s) :=
  .insert (by decide) h

theorem IsBalanced.render {s : Statement} (h : s.IsBalanced) : Balanced s.render := by
  cases s with
  | declareFlag | ignoreOthers | ignoreOthersIfFlagged | finish => decide
  | openCall name =>
    have hcall : Balanced (methodCall "expectNCalls" [Helper.numCalls, quoted name]) := by
      refine balanced_methodCall (by decide) ?_
      simp only [List.mem_cons, List.not_mem_nil, or_false]
      rintro _ (rfl | rfl)
      · decide
      · exact balanced_quoted h
    exact .insert (by decide) hcall
  | onObject owner =>
    have hobject : Expr.IsBalanced
        { base := Helper.object, wraps := [.getValue, .constCast (owner ++ "*")] } :=
      (Helper.isBalanced_argument (by decide)).wrap (h.append (by decide) : Balanced (owner ++ "*"))
    have hcall : Balanced (methodCall "onObject" [_]) :=
      balanced_methodCall (by decide) (by simpa using hobject.render)
    exact .append (by decide) (balanced_braced (balanced_onCall hcall))
  | check => exact balanced_onCall (ExpectedMatcher.IsBalanced.render h)
  | checkUnlessIgnored =>
    exact .append (.insert (by decide) h.1) (balanced_braced (balanced_onCall h.2.render))
  | checkOrFlag =>
    exact (((Balanced.insert (by decide) h.1).append (by decide)).append (by decide)).append
      (balanced_braced (balanced_onCall h.2.render))
  | andReturn e =>
    exact balanced_onCall
      (balanced_methodCall (by decide) (by simpa using Expr.IsBalanced.render h))

end Statement

/-- All texts of the slot are balanced. -/
structure HelperSlot.IsBalanced (s : HelperSlot) : Prop where
  name : Balanced s.name
  type : Balanced s.type
  matcher : s.matcher.IsBalanced

/-- All texts of the heads are balanced. -/
structure HelperHeads.IsBalanced (h : HelperHeads) : Prop where
  name : Balanced h.name
  namespaces : ∀ name ∈ h.namespaces, Balanced name
  owner : ∀ owner ∈ h.owner?, Balanced owner
  slots : ∀ s ∈ h.slots, s.IsBalanced
  returnType : ∀ type ∈ h.returnType?, Balanced type

/-- All texts of the helpers are balanced. -/
structure Helpers.IsBalanced (h : Helpers) : Prop where
  heads : h.toHelperHeads.IsBalanced
  call : Balanced h.call
  returnExpr : ∀ e ∈ h.returnExpr?, e.IsBalanced

theorem Formal.balanced_render {f : Formal} (htype : Balanced f.type) (hname : Balanced f.name)
    (hdefault : ∀ d ∈ f.default?, Balanced d) : Balanced f.render := by
  refine ((htype.append (by decide)).append hname).append (.join ?_)
  simp only [List.mem_map, Option.mem_toList]
  rintro _ ⟨d, hd, rfl⟩
  exact .append (by decide) (hdefault d hd)

theorem Helper.balanced_sizeOf {name : String} (h : Balanced name) :
    Balanced (Helper.sizeOf name) :=
  .append (by decide) h

theorem Helper.balanced_wrapper {type : String} (h : Balanced type) :
    Balanced (Helper.wrapper type) :=
  .insert (by decide) h

namespace HelperSlot.IsBalanced

variable {s : HelperSlot}

theorem formals (h : s.IsBalanced) : ∀ f ∈ s.formals, Balanced f.render := by
  intro f hf
  simp only [HelperSlot.formals, List.mem_cons] at hf
  obtain rfl | hf := hf
  · refine Formal.balanced_render ?_ h.name nofun
    dsimp only
    split
    · exact Helper.balanced_wrapper h.type
    · exact h.type
  · refine forall_mem_ite (P := fun f => Balanced f.render) ?_ f hf
    exact Formal.balanced_render (show Balanced "size_t" by decide)
      (Helper.balanced_sizeOf h.name) nofun

theorem names (h : s.IsBalanced) : ∀ name ∈ s.names, Balanced name := by
  intro name hname
  simp only [HelperSlot.names, List.mem_cons] at hname
  obtain rfl | hname := hname
  · exact h.name
  · exact forall_mem_ite (Helper.balanced_sizeOf h.name) name hname

end HelperSlot.IsBalanced

namespace HelperHeads.IsBalanced

variable {h : HelperHeads}

theorem formals (hh : h.IsBalanced) (withDefaults : Bool) :
    ∀ f ∈ h.formals withDefaults, Balanced f.render := by
  simp only [HelperHeads.formals, List.mem_append, List.mem_map, List.mem_flatMap,
    Option.mem_toList]
  rintro f ((⟨owner, howner, rfl⟩ | ⟨slot, hslot, hf⟩) | ⟨type, htype, rfl⟩)
  · have hpointer : Balanced ("const " ++ owner ++ "*") :=
      .insert (by decide) (hh.owner owner howner)
    refine Formal.balanced_render (Helper.balanced_wrapper hpointer)
      (show Balanced Helper.object by decide) ?_
    dsimp only
    split
    · rintro _ ⟨⟩
      decide
    · nofun
  · exact (hh.slots slot hslot).formals f hf
  · exact Formal.balanced_render (hh.returnType type htype)
      (show Balanced Helper.returnValue by decide) nofun

theorem formalsMany (hh : h.IsBalanced) (withDefaults : Bool) :
    ∀ f ∈ h.formalsMany withDefaults, Balanced f.render := by
  simp only [HelperHeads.formalsMany, List.mem_cons]
  rintro f (rfl | hf)
  · decide
  · exact hh.formals withDefaults f hf

theorem forwarded (hh : h.IsBalanced) : ∀ arg ∈ h.forwarded, Balanced arg := by
  simp only [HelperHeads.forwarded, List.cons_append, List.mem_cons, List.mem_append, List.mem_map,
    List.mem_flatMap]
  rintro arg (rfl | (⟨_, -, rfl⟩ | ⟨slot, hslot, hname⟩) | ⟨_, -, rfl⟩)
  · decide
  · decide
  · exact (hh.slots slot hslot).names arg hname
  · decide

theorem signatureText (hh : h.IsBalanced) {formals : List Formal}
    (hformals : ∀ f ∈ formals, Balanced f.render) : Balanced (h.signatureText formals) := by
  refine balanced_call (.append (by decide) hh.name) (Layout.balanced_commaSeparated ?_)
  simpa using hformals

theorem prototypes (hh : h.IsBalanced) : Balanced h.prototypes := by
  refine balanced_inExpectNamespaces ?_ hh.namespaces
  have hone := hh.signatureText (hh.formals true)
  have hmany := hh.signatureText (hh.formalsMany true)
  exact ((hone.append (by decide)).append hmany).append (by decide)

end HelperHeads.IsBalanced

namespace Helpers.IsBalanced

variable {h : Helpers}

theorem checkSlot (h : Helpers) {s : HelperSlot} (hs : s.IsBalanced) :
    (h.checkSlot s).IsBalanced := by
  unfold Helpers.checkSlot
  split
  · exact hs.matcher
  split
  · exact ⟨hs.name, hs.matcher⟩
  · exact ⟨hs.name, hs.matcher⟩

theorem body (hh : h.IsBalanced) : ∀ st ∈ h.body, st.IsBalanced := by
  simp only [Helpers.body, List.mem_append, List.mem_map, List.mem_singleton, Option.mem_toList]
  rintro st ((((((hst | rfl) | ⟨owner, howner, rfl⟩) | ⟨slot, hslot, rfl⟩) | ⟨e, he, rfl⟩) | hst) |
    rfl)
  · exact forall_mem_ite (a := Statement.declareFlag) trivial st hst
  · exact hh.call
  · exact hh.heads.owner owner howner
  · exact checkSlot h (hh.heads.slots slot hslot)
  · exact hh.returnExpr e he
  · split at hst
    · obtain rfl := List.mem_singleton.mp hst
      trivial
    · exact forall_mem_ite (a := Statement.ignoreOthersIfFlagged) trivial st hst
  · trivial

theorem implementations (hh : h.IsBalanced) : Balanced h.implementations := by
  refine balanced_inExpectNamespaces ?_ hh.heads.namespaces
  have hone := hh.heads.signatureText (hh.heads.formals false)
  have hmany := hh.heads.signatureText (hh.heads.formalsMany false)
  have hforward :
      Balanced ("return " ++ h.name ++ "(" ++ Layout.commaSeparated h.forwarded ++ ");") :=
    .insert₂ (by decide) hh.heads.name (Layout.balanced_commaSeparated hh.heads.forwarded)
  have hbody : ∀ line ∈ h.body.map Statement.render, Balanced line := by
    simp only [List.mem_map]
    rintro _ ⟨st, hst, rfl⟩
    exact (hh.body st hst).render
  have hline : Balanced "\n" := by decide
  have hblock := Layout.balanced_block (List.forall_mem_singleton.mpr hforward)
  have hfirst := (hone.append hline).append hblock
  exact ((hfirst.append hmany).append hline).append (Layout.balanced_block hbody)

end Helpers.IsBalanced

end HeaderMock

import SlotTemplate.Component.Stock
import SlotTemplate.Proofs.Argument.Extension
import SlotTemplate.Proofs.Rendering
import SlotTemplate.Proofs.Text.Entities

/-!
# Escaping once

What the filter `escape` gives is safe text. Neither a second `escape` nor printing escapes it
again. Text that is marked as safe is not escaped at all. Rendered slots are safe when they are
printed, but the filter escapes the text of the default slot as it does any other text.

* `Value.render_escape_iff`: escaping a value first changes what is printed for slots alone;
* `Expr.Pipes`: an expression with more filters behind it, and `Expr.exists_pipes`: it is what is
  read once their names are written behind an expression;
* `Expr.escaped_once`: when the filter leaves what a variable prints as it is.
-/

namespace SlotTemplate

open Argument Grammar Rendering

/-! ## Values -/

namespace Value

theorem escape_escape (v : Value) : v.escape.escape = v.escape := by cases v <;> rfl

theorem escape_markSafe (v : Value) : v.markSafe.escape = v.markSafe := by cases v <;> rfl

/-- Escaping a value before it is printed changes what is printed for rendered slots alone, and for
those only if the text of the default slot can be escaped. -/
theorem render_escape_iff (v : Value) : v.escape.render true = v.render true ↔
    ∀ m, v = .slots m → Text.Plain (m.get defaultSlot) := by
  cases v with
  | slots m =>
    have printed : (slots m).render true = m.get defaultSlot := rfl
    have escaped : (slots m).escape.render true = Text.escapeHtml (m.get defaultSlot) := rfl
    rw [printed, escaped, Text.escapeHtml_eq_self_iff]
    constructor
    · rintro plain _ ⟨⟩
      exact plain
    · intro plain
      exact plain m rfl
  | _ =>
    refine ⟨fun _ => ?_, fun _ => rfl⟩
    rintro _ ⟨⟩

/-- A safe value keeps its text when it is escaped if it keeps what it prints. -/
theorem text_escape_iff {v : Value} (safe : v.isSafe = true) :
    v.escape.text = v.text ↔ v.escape.render true = v.render true := by
  cases v with
  | safe | slots => exact Iff.rfl
  | _ => cases safe

end Value

/-! ## Expressions -/

namespace Expr

/-- An expression with more filters behind it, wherever the two stand. -/
structure Pipes (e : Expr) (kinds : List FilterKind) (e' : Expr) : Prop where
  primary : e'.primary = e.primary
  filters : e'.filters.map Filter.kind = e.filters.map Filter.kind ++ kinds

variable {e e' e'' : Expr} {kinds kinds' : List FilterKind}

theorem Pipes.refl (e : Expr) : e.Pipes [] e := ⟨rfl, (List.append_nil _).symm⟩

theorem pipes_filter (e : Expr) (f : Filter) (span : Span) :
    e.Pipes [f.kind] ⟨e.primary, e.filters ++ [f], span⟩ := ⟨rfl, List.map_append⟩

theorem Pipes.trans (h : e.Pipes kinds e') (h' : e'.Pipes kinds' e'') :
    e.Pipes (kinds ++ kinds') e'' := by
  constructor
  · rw [h'.primary, h.primary]
  · rw [h'.filters, h.filters, List.append_assoc]

theorem Pipes.eval (h : e.Pipes kinds e') (s : Scope) :
    e'.eval s = kinds.foldl (fun v kind => kind.apply s v) (e.eval s) := by
  have folded (e : Expr) : e.eval s =
      (e.filters.map Filter.kind).foldl (fun v kind => kind.apply s v) (e.primary.eval s) := by
    rw [Expr.eval, List.foldl_map]
  rw [folded, folded, h.primary, h.filters, List.foldl_append]

/-- A text with the names of filters written behind it. -/
def piped (contents : String) (kinds : List FilterKind) : String :=
  kinds.foldl (fun text kind => text ++ ("|" ++ kind.name)) contents

/-- Filters without argument that are written behind an expression are read behind it. -/
theorem exists_pipes {contents : String} {offset line : Nat}
    (valid : Expr.ofVariable contents offset line = .ok e)
    (plain : ∀ kind ∈ kinds, kind.argument? = none) :
    ∃ e', Expr.ofVariable (piped contents kinds) offset line = .ok e' ∧ e.Pipes kinds e' := by
  induction kinds generalizing contents e with
  | nil => exact ⟨e, valid, .refl e⟩
  | cons kind kinds ih =>
    obtain ⟨here, there⟩ := List.forall_mem_cons.1 plain
    have named : FilterKind.plain? kind.name = some kind := by
      cases kind <;> first | rfl | cases here
    have written : ("|" ++ kind.name).toList = '|' :: kind.name.toList := String.toList_append
    obtain ⟨e', read, behind⟩ := ih (ofVariable_filter valid named written) there
    exact ⟨e', read, (e.pipes_filter ⟨kind, _⟩ _).trans behind⟩

end Expr

/-! ## What variables print -/

namespace Node

variable {x y : Expr} {invoke : Invoke}

theorem render_variable_eq_iff {p : Pass} :
    (Node.variable x).render true invoke p = (Node.variable y).render true invoke p ↔
      (x.eval p.scope).render true = (y.eval p.scope).render true := by
  rw [render_variable_run, render_variable_run, write_run, write_run]
  constructor
  · intro same
    have out := congrArg (fun r => r.2.out) same
    exact (String.append_right_inj _).1 out
  · intro same
    rw [same]

end Node

namespace Expr

/-- Where what variables print is escaped, a second filter `escape` changes nothing, and nor does
one behind the filter `safe`. A single one leaves what an expression prints as it is, unless the
value is that of rendered slots whose default slot has a text that can be escaped: that text is
escaped, although it is safe. The filters may be written behind any expression that stands alone. -/
theorem escaped_once (e : Expr) (invoke : Invoke) :
    (∀ once twice p, e.Pipes [.escape] once → e.Pipes [.escape, .escape] twice →
      (Node.variable twice).render true invoke p = (Node.variable once).render true invoke p) ∧
    (∀ marked both p, e.Pipes [.safe] marked → e.Pipes [.safe, .escape] both →
      (Node.variable both).render true invoke p = (Node.variable marked).render true invoke p) ∧
    (∀ once p, e.Pipes [.escape] once →
      ((Node.variable once).render true invoke p = (Node.variable e).render true invoke p ↔
        ∀ m, e.eval p.scope = .slots m → Text.Plain (m.get defaultSlot))) ∧
    (∀ v : Value, v.isSafe = true →
      (v.escape.text = v.text ↔ ∀ m, v = .slots m → Text.Plain (m.get defaultSlot))) ∧
    ∀ contents offset line, Expr.ofVariable contents offset line = .ok e →
      ∀ kinds : List FilterKind, (∀ kind ∈ kinds, kind.argument? = none) →
        ∃ e', Expr.ofVariable (piped contents kinds) offset line = .ok e' ∧ e.Pipes kinds e' := by
  refine ⟨fun once twice p single double => ?_, fun marked both p safe behind => ?_,
    fun once p single => ?_, fun v safe => ?_, fun contents offset line valid kinds plain => ?_⟩
  · have same : twice.eval p.scope = once.eval p.scope := by
      rw [double.eval, single.eval]
      simp only [List.foldl_cons, List.foldl_nil, FilterKind.apply, Value.escape_escape]
    exact Node.render_variable_eq_iff.2 (by rw [same])
  · have same : both.eval p.scope = marked.eval p.scope := by
      rw [behind.eval, safe.eval]
      simp only [List.foldl_cons, List.foldl_nil, FilterKind.apply, Value.escape_markSafe]
    exact Node.render_variable_eq_iff.2 (by rw [same])
  · rw [Node.render_variable_eq_iff, single.eval]
    simp only [List.foldl_cons, List.foldl_nil, FilterKind.apply, Value.render_escape_iff]
  · exact (Value.text_escape_iff safe).trans v.render_escape_iff
  · exact exists_pipes valid plain

/-- A text that is printed with filters behind it, and rendered slots whose text is plain. -/
theorem escaped_once_text :
    let escaping : Filter := ⟨.escape, ⟨4, 11⟩⟩
    let marking : Filter := ⟨.safe, ⟨4, 9⟩⟩
    let e : Expr := ⟨.lookup "x" [], [], ⟨3, 4⟩⟩
    let once : Expr := ⟨.lookup "x" [], [escaping], ⟨3, 11⟩⟩
    let twice : Expr := ⟨.lookup "x" [], [escaping, ⟨.escape, ⟨11, 18⟩⟩], ⟨3, 18⟩⟩
    let marked : Expr := ⟨.lookup "x" [], [marking], ⟨3, 9⟩⟩
    let both : Expr := ⟨.lookup "x" [], [marking, ⟨.escape, ⟨9, 16⟩⟩], ⟨3, 16⟩⟩
    let invoke : Invoke := fun _ _ _ => pure ()
    let text : Pass := ⟨.ofData (Dict.ofList [("x", .string "<b>")]), "", Dict.empty⟩
    let plain : SlotMap := ⟨[(defaultSlot, "b")]⟩
    let slots : Pass := ⟨.ofData (Dict.ofList [("x", .slots plain)]), "", Dict.empty⟩
    (Node.variable twice).render true invoke text = (Node.variable once).render true invoke text ∧
    (Node.variable both).render true invoke text = (Node.variable marked).render true invoke text ∧
    (Node.variable once).render true invoke text = (Node.variable e).render true invoke text ∧
    (Node.variable once).render true invoke slots = (Node.variable e).render true invoke slots ∧
    (Value.slots plain).escape.text = (Value.slots plain).text ∧
    ∃ e', Expr.ofVariable "x|safe|escape" 3 1 = .ok e' ∧ e.Pipes [.safe, .escape] e' := by
  intro escaping marking e once twice marked both invoke text plain slots
  obtain ⟨again, behind, single, value, reads⟩ := escaped_once e invoke
  have still : ∀ m, Value.slots plain = .slots m → Text.Plain (m.get defaultSlot) := by
    rintro _ ⟨⟩
    decide
  have other : ∀ m, Value.string "<b>" ≠ .slots m := by
    rintro m ⟨⟩
  have lexed : lex "x" 3 = .ok [(.ident "x", ⟨3, 4⟩)] := by decide +kernel
  have draft : alone [(.ident "x", ⟨3, 4⟩)] = .ok ⟨.lookup "x" [], [], ⟨3, 4⟩⟩ :=
    alone_iff.2 ⟨⟨.path "x" ⟨3, 4⟩ [], []⟩, rfl, rfl⟩
  have read : Expr.ofVariable "x" 3 1 = .ok e :=
    bind_eq_ok_iff.2 ⟨_, readAll_eq_ok_iff.2 ⟨_, lexed, draft⟩, rfl⟩
  refine ⟨again once twice text ⟨rfl, rfl⟩ ⟨rfl, rfl⟩,
    behind marked both text ⟨rfl, rfl⟩ ⟨rfl, rfl⟩,
    (single once text ⟨rfl, rfl⟩).2 fun m is => absurd is (other m),
    (single once slots ⟨rfl, rfl⟩).2 still, (value _ rfl).2 still,
    reads "x" 3 1 read [.safe, .escape] (by decide)⟩

/-- Slots with `<b>` as the text of the default slot print differently once they are escaped. -/
theorem not_escaped_once : ¬ ∀ (e once : Expr) (invoke : Invoke) (p : Pass),
    e.Pipes [.escape] once →
      (Node.variable once).render true invoke p = (Node.variable e).render true invoke p := by
  intro claim
  let slots : SlotMap := ⟨[(defaultSlot, "<b>")]⟩
  let e : Expr := ⟨.lookup "slots" [], [], ⟨3, 8⟩⟩
  let once : Expr := ⟨.lookup "slots" [], [⟨.escape, ⟨8, 15⟩⟩], ⟨3, 15⟩⟩
  let p : Pass := ⟨.ofData (Dict.ofList [("slots", .slots slots)]), "", Dict.empty⟩
  have same := claim e once (fun _ _ _ => pure ()) p ⟨rfl, rfl⟩
  have printed := Node.render_variable_eq_iff.1 same
  exact absurd printed (by decide)

/-- The text of a slot is escaped by the filter although it is printed as it is without. -/
example :
    let card := Library.empty.component (Component.named "card")
    let e := Engine.default.addBuiltins card
    let page := "{% card %}<b>{% /card %}"
    let printed (template : String) := ((e.addTemplate "components/card.html" template).renderSource
      (Files.inDirectory []) page Dict.empty).1
    printed "{{ slots }} {{ slot|escape }}" = .ok "<b> <b>" ∧
      printed "{{ slots|escape }}" = .ok "&lt;b&gt;" := by
  decide +kernel

end Expr

end SlotTemplate

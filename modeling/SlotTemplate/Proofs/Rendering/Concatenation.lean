import SlotTemplate.Component.Stock
import SlotTemplate.Proofs.Derivation.Concatenation
import SlotTemplate.Proofs.Dict
import SlotTemplate.Proofs.Rendering.Locality

/-!
# Templates one behind another

* `Reprints.render`: nodes render alike after a change that keeps their shape;
* `renderAll_relocate`: so they do wherever they stand;
* `Engine.fetch_fetch`: a template that was fetched changes no other fetch;
* `Engine.renderTemplate_append`: nodes one behind another render to both texts;
* `Engine.compile_append`: so do sources one behind another, which compile to the nodes of both.
-/

namespace SlotTemplate

open Markup Rendering

/-! ## Nodes of the same shape -/

/-- A change of nodes that goes through the parts of each and keeps what variables print, escaped
or not as the second flag says where it was escaped or not as the first one says. -/
structure Reprints (r : Relocation) (autoescape autoescape' : Bool) (f : Node → Node) : Prop
    extends Recasts r f where
  text (s : String) : f (.text s) = .text s
  prints (e : Expr) (invoke : Invoke) :
    (f (.variable e)).render autoescape' invoke = (Node.variable e).render autoescape invoke
  invocation (c : Component) (tag : String) (args : List Argument) (slots : List Slot)
    (span : Span) : f (.invocation c tag args slots span) =
      .invocation c tag (args.map (·.relocate r))
        (slots.map fun slot => ⟨slot.name, slot.content.map f⟩) (span.relocate r)
  slotOutput (name : String) : f (.slotOutput name) = .slotOutput name
  empty : f .empty = .empty

section

variable (r : Relocation)

@[simp] theorem Expr.eval_relocate (e : Expr) (s : Scope) : (e.relocate r).eval s = e.eval s := by
  rw [Expr.eval, Expr.eval, Expr.relocate, List.foldl_map]
  rfl

@[simp] theorem eval_relocate (e : Expr) : Rendering.eval (e.relocate r) = Rendering.eval e := by
  simp only [Rendering.eval, Expr.eval_relocate]

end

section

variable {r : Relocation} {autoescape autoescape' : Bool} {f : Node → Node} {invoke : Invoke}

theorem renderAll_map_of_forall {ns : List Node}
    (h : ∀ n ∈ ns, (f n).render autoescape' invoke = n.render autoescape invoke) :
    renderAll autoescape' invoke (ns.map f) = renderAll autoescape invoke ns := by
  induction ns with
  | nil => rfl
  | cons n ns ih =>
    obtain ⟨here, there⟩ := List.forall_mem_cons.1 h
    rw [List.map_cons, renderAll, renderAll, here, ih there]

theorem renderSlots_map_of_forall {slots : List Slot}
    (h : ∀ slot ∈ slots, renderAll autoescape' invoke (slot.content.map f) =
      renderAll autoescape invoke slot.content) (filled : SlotMap) :
    renderSlots autoescape' invoke (slots.map fun slot => ⟨slot.name, slot.content.map f⟩) filled =
      renderSlots autoescape invoke slots filled := by
  induction slots generalizing filled with
  | nil => rfl
  | cons slot slots ih =>
    obtain ⟨here, there⟩ := List.forall_mem_cons.1 h
    obtain ⟨name, content⟩ := slot
    simp only [List.map_cons, renderSlots, Slot.render, here, ih there]

namespace Reprints

/-- A node renders alike after the change. -/
theorem render (h : Reprints r autoescape autoescape' f) (node : Node) :
    (f node).render autoescape' invoke = node.render autoescape invoke := by
  induction node using Node.induction with
  | step node ih =>
    have inside {ns : List Node} (below : ∀ n ∈ ns, n ∈ node.children) :
        renderAll autoescape' invoke (ns.map f) = renderAll autoescape invoke ns :=
      renderAll_map_of_forall fun n hn => ih n (below n hn)
    cases node with
    | text s => rw [h.text, Node.render, Node.render]
    | «variable» e => exact h.prints e invoke
    | conditional negated e a b | loop name e a b =>
      have first := inside fun n => List.mem_append_left b
      have second := inside fun n => List.mem_append_right a
      simp only [h.conditional, h.loop, Node.render, eval_relocate, first, second]
    | invocation c tag args slots span =>
      have contents := renderSlots_map_of_forall
        (fun slot hs => inside fun n hn => List.mem_flatMap.2 ⟨slot, hs, hn⟩) SlotMap.empty
      simp only [h.invocation, Node.render, contents, List.map_map, Function.comp_def,
        Argument.relocate, Expr.eval_relocate]
    | marker name content span line =>
      have same : renderAll autoescape' invoke (content.map f) =
          renderAll autoescape invoke content := inside fun n => id
      simp only [h.marker, Node.render, same]
    | slotOutput name => rw [h.slotOutput, Node.render, Node.render]
    | empty => rw [h.empty, Node.render, Node.render]

/-- So do nodes one after another. -/
theorem renderAll (h : Reprints r autoescape autoescape' f) (ns : List Node) :
    SlotTemplate.renderAll autoescape' invoke (ns.map f) =
      SlotTemplate.renderAll autoescape invoke ns :=
  renderAll_map_of_forall fun n _ => h.render n

end Reprints

/-! ## Places -/

theorem reprints_relocate (r : Relocation) (autoescape : Bool) :
    Reprints r autoescape autoescape (Node.relocate r) where
  toRecasts := recasts_relocate r
  text _ := rfl
  prints e _ := by rw [Node.relocate, Node.render, Node.render, eval_relocate]
  invocation _ _ _ _ _ := by simp only [Node.relocate, relocateSlots_eq_map, relocateAll_eq_map]
  slotOutput _ := rfl
  empty := rfl

/-- Nodes render alike wherever they stand. -/
theorem renderAll_relocate (r : Relocation) (ns : List Node) :
    renderAll autoescape invoke (relocateAll r ns) = renderAll autoescape invoke ns := by
  rw [relocateAll_eq_map]
  exact (reprints_relocate r autoescape).renderAll ns

end

theorem renderAll_append (autoescape : Bool) (invoke : Invoke) (ns ms : List Node) :
    renderAll autoescape invoke (ns ++ ms) = (do
      renderAll autoescape invoke ns
      renderAll autoescape invoke ms) := by
  induction ns with
  | nil => rw [renderAll, pure_bind, List.nil_append]
  | cons n ns ih => rw [List.cons_append, renderAll, renderAll, ih, bind_assoc]

namespace Engine

/-! ## Templates that are found -/

variable {e : Engine} {files : Files}

/-- A template that was fetched changes no other fetch. -/
theorem fetch_fetch (name other : String) (cache : Cache) :
    (e.fetch files other (e.fetch files name cache).2).1 = (e.fetch files other cache).1 := by
  unfold fetch
  by_cases caching : e.config.cacheTemplates = true
  · simp only [caching, if_true]
    cases found : cache.get? name with
    | some t => rfl
    | none =>
      cases loaded : e.load files name with
      | error err => rfl
      | ok t =>
        by_cases same : name = other
        · subst same
          simp only [Dict.get?_insert_self, found, loaded]
        · simp only [Dict.get?_insert_of_ne cache t same]
          cases cache.get? other with
          | some _ => rfl
          | none => cases e.load files other <;> rfl
  · simp only [caching]
    rfl

/-- The same templates are found with two caches. -/
def FindsAlike (e : Engine) (files : Files) (cache cache' : Cache) : Prop :=
  ∀ name, (e.fetch files name cache).1 = (e.fetch files name cache').1

/-- Renderings with caches with which the same is found as with a given one. -/
def finding (e : Engine) (files : Files) (cache₀ : Cache) : Lockstep :=
  ⟨fun _ => False, fun _ => True, fun cache cache' =>
    e.FindsAlike files cache cache₀ ∧ e.FindsAlike files cache' cache₀⟩

theorem finding_engines (e : Engine) (files : Files) (cache₀ : Cache) :
    (e.finding files cache₀).Engines e e files := by
  refine ⟨rfl, rfl, fun _ _ => trivial, ?_⟩
  rintro name cache cache' ⟨left, right⟩
  have kept {cache : Cache} (alike : e.FindsAlike files cache cache₀) :
      e.FindsAlike files (e.fetch files name cache).2 cache₀ :=
    fun other => (fetch_fetch name other cache).trans (alike other)
  exact ⟨(left name).trans (right name).symm, ⟨kept left, kept right⟩, fun _ _ => trivial,
    fun _ _ => trivial⟩

/-! ## Nodes -/

/-- Nodes behind others render as they would alone. -/
theorem renderNodes_append_run (e : Engine) (files : Files) (depth : Nat) (ns ms : List Node)
    (scope : Scope) (cache : Cache) :
    ∃ first text compiled second text' compiled' compiled'',
      e.renderNodes files depth ns ⟨scope, "", cache⟩ = (first, ⟨scope, text, compiled⟩) ∧
      e.renderNodes files depth ms ⟨scope, text, compiled⟩ =
        (second, ⟨scope, text ++ text', compiled'⟩) ∧
      e.renderNodes files depth ms ⟨scope, "", cache⟩ = (second, ⟨scope, text', compiled''⟩) := by
  have agree (ns : List Node) (before : String) :=
    Lockstep.agree_renderNodes (finding_engines e files cache)
      (fun _ => trivial) depth (.refl scope (freeNamesOfAll ns)) before
  have start : e.FindsAlike files cache cache := fun _ => rfl
  obtain ⟨first, text, compiled, _, caches, run, -⟩ :=
    (agree ns "").run_both (fun _ => id) ⟨start, start⟩ ""
  obtain ⟨second, text', compiled', compiled'', -, behind, alone⟩ :=
    (agree ms text).run_both (fun _ => id) ⟨caches.1, start⟩ ""
  simp only [String.empty_append, String.append_empty] at run behind
  exact ⟨first, text, compiled, second, text', compiled', compiled'', run, behind, alone⟩

/-- Nodes one behind another render to both texts, or fail as the first ones that fail. -/
theorem renderTemplate_append (e : Engine) (files : Files) {t u v : Template}
    (nodes : v.nodes = t.nodes ++ u.nodes) (data : Data) :
    (e.renderTemplate files v data).1 = (do
      let x ← (e.renderTemplate files t data).1
      let y ← (e.renderTemplate files u data).1
      return x ++ y) := by
  obtain ⟨first, text, compiled, second, text', compiled', compiled'', run, behind, alone⟩ :=
    e.renderNodes_append_run files 0 t.nodes u.nodes (.ofData data) e.cache
  have both : e.renderNodes files 0 v.nodes = (do
      e.renderNodes files 0 t.nodes
      e.renderNodes files 0 u.nodes) := by
    rw [nodes]
    exact renderAll_append _ _ _ _
  simp only [renderTemplate_depth, isolate, both, bind_run, run, alone]
  cases first with
  | error err => rfl
  | ok =>
    simp only [behind]
    cases second <;> rfl

/-- A source whose last lexeme is no text is read apart from what follows it. If both compile and
the first one loads no library, they compile one behind another to the nodes of both and render to
both texts, or fail as the first one that fails. -/
theorem compile_append (e : Engine) {a b : String}
    (ends : ∀ l ∈ (tokenize a).getLast?, ¬ l.IsText) :
    let behind := Relocation.shift (Text.byteSize a.toList) (Text.newlines a.toList)
    tokenize (a ++ b) = tokenize a ++ (tokenize b).map (Lexeme.relocate behind) ∧
    ∀ name t u, e.compileNamed name a = .ok t → e.compileNamed name b = .ok u →
      (∀ l ∈ tokenize a, ∀ tag, l.token = .block tag →
        e.builtins.binding? tag.name ≠ some .load) →
      ∃ v, e.compileNamed name (a ++ b) = .ok v ∧
        v.nodes = t.nodes ++ relocateAll behind u.nodes ∧
        ∀ files data, (e.renderTemplate files v data).1 = (do
          let x ← (e.renderTemplate files t data).1
          let y ← (e.renderTemplate files u data).1
          return x ++ y) := by
  intro behind
  refine ⟨tokenize_append b ends, fun name t u first second noLoad => ?_⟩
  obtain ⟨ns, compiled, rfl⟩ := map_eq_ok_iff.1 first
  obtain ⟨ms, compiled', rfl⟩ := map_eq_ok_iff.1 second
  have both := compileSource_append ends noLoad compiled compiled'
  refine ⟨⟨name, ns ++ relocateAll behind ms⟩, map_eq_ok_iff.2 ⟨_, both, rfl⟩, rfl,
    fun files data => ?_⟩
  -- the nodes of the second source render alike where they stand now
  have moved : (e.renderTemplate files ⟨name, relocateAll behind ms⟩ data).1 =
      (e.renderTemplate files ⟨name, ms⟩ data).1 := by
    simp only [renderTemplate_depth, renderNodes, renderAll_relocate]
  rw [← moved]
  exact e.renderTemplate_append files rfl data

theorem compile_append_card :
    let card := Library.empty.component (Component.named "card")
    let e := (Engine.default.addBuiltins card).addTemplate "components/card.html"
      "[{{ title }}]"
    let a := "é\n{% if x %}{{ x }}\n{% endif %}"
    let b := "{% card title=y|default:2 %}{% /card %} b"
    let behind := Relocation.shift (Text.byteSize a.toList) (Text.newlines a.toList)
    let files := Files.inDirectory []
    let data := Dict.ofList [("x", .int 1)]
    (∀ l ∈ (tokenize a).getLast?, ¬ l.IsText) ∧
      tokenize (a ++ b) = tokenize a ++ (tokenize b).map (Lexeme.relocate behind) ∧
      ∃ t u v, e.compileNamed "page" a = .ok t ∧ e.compileNamed "page" b = .ok u ∧
        e.compileNamed "page" (a ++ b) = .ok v ∧
        v.nodes = t.nodes ++ relocateAll behind u.nodes ∧
        (e.renderTemplate files v data).1 = .ok "é\n1\n[2] b" := by
  intro card e a b behind files data
  have ends : ∀ l ∈ (tokenize a).getLast?, ¬ l.IsText := by
    have last : (tokenize a).getLast? =
        some ⟨.block ⟨"endif", 24, ⟨21, 32⟩, 3⟩, ⟨21, 32⟩, 3⟩ := by decide +kernel
    rw [last]
    rintro _ ⟨⟩ ⟨_, token⟩
    cases token
  have noLoad : ∀ l ∈ tokenize a, ∀ tag, l.token = .block tag →
      e.builtins.binding? tag.name ≠ some .load := by
    have names : ∀ tag ∈ (tokenize a).filterMap Parser.tagOf?, tag.name ∈ ["if", "endif"] := by
      decide +kernel
    have others : ∀ p ∈ card.tags.entries, p.1 ∉ ["if", "endif"] := by decide +kernel
    intro l hl tag token
    have name := Parser.forall_tag names l hl tag token
    have builtin : e.builtins.binding? tag.name = Library.builtin.binding? tag.name :=
      Dict.get?_insertAll_of_forall fun p hp same => others p hp (same ▸ name)
    simp only [List.mem_cons, List.not_mem_nil, or_false] at name
    rw [builtin]
    rcases name with name | name <;>
      simp [name, Library.binding?, Library.builtin, Library.tag, Dict.get?_insert, Library.empty]
  obtain ⟨t, first⟩ : ∃ t, e.compileNamed "page" a = .ok t := exists_eq_ok (by decide +kernel)
  obtain ⟨u, second⟩ : ∃ u, e.compileNamed "page" b = .ok u := exists_eq_ok (by decide +kernel)
  have text : ∀ t, e.compileNamed "page" a = .ok t →
      (e.renderTemplate files t data).1 = .ok "é\n1\n" := by decide +kernel
  have text' : ∀ u, e.compileNamed "page" b = .ok u →
      (e.renderTemplate files u data).1 = .ok "[2] b" := by decide +kernel
  obtain ⟨lexemes, compiles⟩ := e.compile_append (b := b) ends
  obtain ⟨v, both, nodes, renders⟩ := compiles "page" t u first second noLoad
  refine ⟨ends, lexemes, t, u, v, first, second, both, nodes, ?_⟩
  rw [renders, text t first, text' u second]
  rfl

end Engine

end SlotTemplate

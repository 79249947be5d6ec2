import SlotTemplate.Proofs.Derivation.SafeMarks
import SlotTemplate.Proofs.Rendering.Concatenation

/-!
# Escaping turned off

Without escaping, a variable prints what it would print with the filter `safe` behind it. What is
printed becomes the text of slots, and slots are handed on from template to template; none of them
can tell which of the two was done.

* `Value.render_markSafe`: a value that is marked as safe prints its text;
* `Template.Marked.renderAll_eq`: the nodes of a marked template render to the same;
* `Engine.MarkedBy.agree_renderLevels`: so do its components, at any depth;
* `Engine.autoescape_off_eq_marked`: an engine that escapes nothing renders as one that escapes what
  variables print does with marked variables.
-/

namespace SlotTemplate

open Markup Rendering

/-! ## Nodes -/

theorem Value.render_markSafe (v : Value) : v.markSafe.render true = v.render false := by
  cases v <;> rfl

theorem Expr.eval_markSafe (e : Expr) (s : Scope) : e.markSafe.eval s = (e.eval s).markSafe := by
  rw [Expr.eval, Expr.markSafe, List.foldl_append]
  rfl

theorem reprints_markSafe :
    Reprints .erased false true fun n => n.markSafe.relocate .erased where
  toRecasts := recasts_markSafe .erased
  text _ := rfl
  prints e invoke := by
    funext p
    rw [Node.markSafe, Node.relocate, Node.render, Node.render, eval_relocate, bind_run, bind_run,
      eval_run, eval_run, Expr.eval_markSafe]
    simp only [Value.render_markSafe]
  invocation _ _ _ _ _ := by
    simp only [Node.markSafe, Node.relocate, relocateSlots_eq_map, relocateAll_eq_map,
      markSafeSlots_eq_map, List.map_map, Function.comp_def]
  slotOutput _ := rfl
  empty := rfl

/-- The nodes of a marked template render with escaping as its own nodes do without. -/
theorem Template.Marked.renderAll_eq {t t' : Template} (h : t.Marked t') (invoke : Invoke) :
    renderAll true invoke t'.nodes = renderAll false invoke t.nodes := by
  rw [← renderAll_relocate .erased t'.nodes, ← h.nodes, relocateAll_eq_map, markSafeAll_eq_map,
    List.map_map]
  exact reprints_markSafe.renderAll t.nodes

/-! ## Engines -/

/-- Renderings with caches that hold templates, and the same ones with marked variables. -/
def Lockstep.marking : Lockstep :=
  ⟨fun _ => False, fun _ => True, fun cache cache' =>
    ∀ name, Option.Rel Template.Marked (cache.get? name) (cache'.get? name)⟩

namespace Engine

/-- The first engine escapes nothing. The second one escapes what variables print and has the
templates of the first one with marked variables; all else is the same. -/
structure MarkedBy (e e' : Engine) (files : Files) : Prop where
  off : e.config.autoescape = false
  config : e'.config = { e.config with autoescape := true }
  loads : ∀ name, SameOutcome Template.Marked (e.load files name) (e'.load files name)

namespace MarkedBy

variable {e e' : Engine} {files : Files} {t t' : Template}

theorem fetch_marked (h : e.MarkedBy e' files) {cache cache' : Cache}
    (caches : Lockstep.marking.caches cache cache') (name : String) :
    SameOutcome Template.Marked (e.fetch files name cache).1 (e'.fetch files name cache').1 ∧
      Lockstep.marking.caches (e.fetch files name cache).2 (e'.fetch files name cache').2 :=
  fetch_sameOutcome (by rw [h.config]) h.loads caches name

theorem agree_getTemplate (h : e.MarkedBy e' files) (name : String) (s s' : Scope)
    (before : String) :
    Lockstep.marking.Agree s s' before (e.getTemplate files name) (e'.getTemplate files name)
      Template.Marked := by
  refine Lockstep.agree_getTemplate_of_outcomes (fun cache cache' caches => ?_) s s' before
  obtain ⟨same, kept⟩ := h.fetch_marked caches name
  exact ⟨same, kept, fun _ _ => trivial⟩

/-- At every depth, a marked template renders to what the template renders to without escaping. -/
theorem agree_renderLevels (h : e.MarkedBy e' files) (levels : Nat) (both : t.Marked t')
    (data : Data) (s s' : Scope) (before : String) :
    Lockstep.marking.Agree s s' before (e.renderLevels files levels t data)
      (e'.renderLevels files levels t' data) Eq := by
  induction levels generalizing t t' data s s' before with
  | zero =>
    rw [Engine.renderLevels, Engine.renderLevels, h.config, both.name]
    exact .throw trivial
  | succ levels ih =>
    rw [Engine.renderLevels, Engine.renderLevels, h.config, h.off, both.renderAll_eq]
    have invoked : Lockstep.marking.Invokes (fun _ => True)
        (e.invoke files (e.renderLevels files levels))
        (e'.invoke files (e'.renderLevels files levels)) := by
      intro c _ slots args
      exact Lockstep.agree_invoke_of_agree (by rw [h.config])
        (fun _ => trivial) (h.agree_getTemplate _) fun t t' data _ both => ih both data
    have all : ∀ n ∈ t.nodes, n.Everywhere fun n => ∀ c ∈ n.component?, True :=
      fun n _ => n.everywhere_of_forall fun _ _ _ => trivial
    exact .isolate (Lockstep.agree_renderAll invoked all (.refl (.ofData data) _) "")

theorem renderTemplate_eq (h : e.MarkedBy e' files)
    (caches : Lockstep.marking.caches e.cache e'.cache) (both : t.Marked t') (data : Data) :
    (e'.renderTemplate files t' data).1 = (e.renderTemplate files t data).1 := by
  have agree := h.agree_renderLevels (e.config.maxDepth + 1) both data .empty .empty ""
  have depth : e.config.maxDepth = e'.config.maxDepth := by rw [h.config]
  exact (Lockstep.renderTemplate_eq_of_agree (fun _ => id) depth caches agree).symm

theorem render_eq (h : e.MarkedBy e' files)
    (caches : Lockstep.marking.caches e.cache e'.cache) (name : String) (data : Data) :
    (e'.render files name data).1 = (e.render files name data).1 := by
  obtain ⟨same, kept⟩ := h.fetch_marked caches name
  refine (render_eq_of_outcomes same fun t t' _ both => ?_).symm
  have next : ({ e with cache := (e.fetch files name e.cache).2 } : Engine).MarkedBy
      { e' with cache := (e'.fetch files name e'.cache).2 } files := ⟨h.off, h.config, h.loads⟩
  exact (next.renderTemplate_eq kept both data).symm

end MarkedBy

/-! ## Marked sources -/

/-- A source with marked variables. It is the variable nodes that are marked; a source that does not
compile has none, since it has no tree, and stays as it is. -/
def markSource (e : Engine) (source : String) : String :=
  if (compileSource e.builtins e.libraries source).isOk then Markup.markSafe source else source

/-- The engine that escapes nothing. -/
def unescaped (e : Engine) : Engine := { e with config := { e.config with autoescape := false } }

/-- The engine that escapes what variables print, with marked variables in all templates that it
has in memory, finds in its sources or has compiled before. -/
def marked (e : Engine) : Engine :=
  { e with
    config := { e.config with autoescape := true }
    memory := e.memory.map e.markSource
    sources := e.sources.map fun source =>
      { source with text? := fun files name => (source.text? files name).map e.markSource }
    cache := e.cache.map Template.markSafe }

variable (e : Engine) (files : Files)

/-- A source compiles as it does with marked variables. -/
theorem compileNamed_markSource (name source : String) :
    SameOutcome Template.Marked (e.compileNamed name source)
      (e.compileNamed name (e.markSource source)) := by
  cases compiled : compileSource e.builtins e.libraries source with
  | ok ns =>
    have success : e.compileNamed name source = .ok ⟨name, ns⟩ :=
      map_eq_ok_iff.2 ⟨ns, compiled, rfl⟩
    have marks : e.markSource source = Markup.markSafe source := by
      rw [markSource, compiled]
      rfl
    obtain ⟨t', success', both⟩ := compileNamed_markSafe success
    rw [marks, success, success']
    exact .ok both
  | error err =>
    have stays : e.markSource source = source := by
      rw [markSource, compiled]
      rfl
    rw [stays]
    have failure : e.compileNamed name source = .error err := map_eq_error_iff.2 compiled
    rw [failure]
    exact .error err

theorem templateSource_marked (name : String) :
    e.marked.templateSource files name =
      (e.unescaped.templateSource files name).map e.markSource := by
  have found : e.marked.sources.findSome? (·.text? files name) =
      (e.sources.findSome? (·.text? files name)).map e.markSource := by
    rw [marked, List.findSome?_map, List.map_findSome?]
    rfl
  have locations : e.marked.sources.map (·.location name) = e.sources.map (·.location name) := by
    rw [marked, List.map_map]
    rfl
  have memory : e.marked.memory.get? name = (e.memory.get? name).map e.markSource :=
    Dict.get?_map _ _ _
  rw [templateSource, memory, found, locations, templateSource, unescaped]
  dsimp only
  cases e.memory.get? name with
  | some text => rfl
  | none => cases e.sources.findSome? (·.text? files name) <;> rfl

theorem caches_marked : Lockstep.marking.caches e.cache e.marked.cache := by
  intro name
  have kept : e.marked.cache.get? name = (e.cache.get? name).map Template.markSafe :=
    Dict.get?_map _ _ _
  rw [kept]
  cases e.cache.get? name with
  | none => exact .none
  | some t => exact .some t.marked_markSafe

theorem markedBy_marked : e.unescaped.MarkedBy e.marked files := by
  refine ⟨rfl, rfl, fun name => ?_⟩
  rw [load, load, templateSource_marked]
  cases e.unescaped.templateSource files name with
  | error err => exact .error _
  | ok source => exact (e.compileNamed_markSource name source).mapError (RenderError.compile name)

/-- An engine that escapes nothing renders like the same engine with marked variables and with what
variables print escaped. A source compiles to the same nodes with marked variables, or fails to
compile alike; and each name, each source and each compiled template renders to the same text, or
fails with the same error. -/
theorem autoescape_off_eq_marked (data : Data) :
    (∀ name source, SameOutcome Template.Marked (e.unescaped.compileNamed name source)
      (e.marked.compileNamed name (e.markSource source))) ∧
    (∀ name, (e.marked.render files name data).1 = (e.unescaped.render files name data).1) ∧
    (∀ source, (e.marked.renderSource files (e.markSource source) data).1 =
      (e.unescaped.renderSource files source data).1) ∧
    ∀ t, (e.marked.renderTemplate files t.markSafe data).1 =
      (e.unescaped.renderTemplate files t data).1 := by
  have both : e.unescaped.MarkedBy e.marked files := e.markedBy_marked files
  have caches : Lockstep.marking.caches e.unescaped.cache e.marked.cache := e.caches_marked
  refine ⟨e.compileNamed_markSource, fun name => both.render_eq caches name data,
    fun source => ?_, fun t => both.renderTemplate_eq caches t.marked_markSafe data⟩
  have compiled : SameOutcome Template.Marked (e.unescaped.compileNamed unnamed source)
      (e.marked.compileNamed unnamed (e.markSource source)) :=
    e.compileNamed_markSource unnamed source
  rw [renderSource, renderSource]
  generalize e.unescaped.compileNamed unnamed source = x,
    e.marked.compileNamed unnamed (e.markSource source) = y at compiled
  cases compiled with
  | error err => rfl
  | ok marked => exact both.renderTemplate_eq caches marked data

/-- The text of a slot is handed on as it is; a filter behind it sees no escaping. -/
example :
    let card := Library.empty.component (Component.named "card")
    let name := "components/card.html"
    let e := (Engine.default.addBuiltins card).addTemplate name "{{ slot|upper }} {{ title }}"
    let page := "{% card title=x|escape %}{{ x }}{% /card %} {{ x|length }}"
    let files := Files.inDirectory []
    let data := Dict.ofList [("x", .string "<b>")]
    e.marked.memory.get? name = some "{{ slot|upper|safe }} {{ title|safe }}" ∧
      (e.marked.renderSource files (e.markSource page) data).1 = .ok "<B> &lt;b&gt; 3" ∧
      (e.unescaped.renderSource files page data).1 = .ok "<B> &lt;b&gt; 3" := by
  decide +kernel

end Engine

end SlotTemplate

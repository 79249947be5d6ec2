import SlotTemplate.Component.Stock
import SlotTemplate.Proofs.Rendering.Locality
import SlotTemplate.Proofs.Result

/-!
# The depth of renderings

The limit on the depth of templates only ever stops a rendering: one that does not reach it gives
the same with any higher limit. The depth is that of templates inside one another. The slots of an
invocation are filled at the depth of the template in which they stand, however deep invocations
nest there.

* `Engine.renderNodes_invocation`: at what depth the slots and the template of an invocation are
  rendered;
* `Engine.renderTemplate_of_le`: a higher limit gives the same;
* `Engine.not_hitsLimit_of_nestsWithin`: templates that nest within the limit do not reach it;
* `Engine.renderTemplate_maxDepth`: what the limit does.
-/

namespace SlotTemplate

open Rendering

/-- Whether an error says that templates nest too deep. -/
def RenderError.IsLimit : RenderError → Prop
  | .recursionLimit _ _ => True
  | _ => False

/-- A rendering fails because templates nest too deep. -/
def HitsLimit {α : Type} (result : Except RenderError α) : Prop :=
  ∃ err, result = .error err ∧ err.IsLimit

theorem renderSlots_eq_foldlM (autoescape : Bool) (invoke : Invoke) (slots : List Slot)
    (filled : SlotMap) :
    renderSlots autoescape invoke slots filled =
      slots.foldlM (fun filled slot => do
        let text ← capture (renderAll autoescape invoke slot.content)
        return filled.insert slot.name text) filled := by
  induction slots generalizing filled with
  | nil => rfl
  | cons slot slots ih =>
    obtain ⟨name, content⟩ := slot
    rw [renderSlots, List.foldlM_cons, Slot.render, bind_assoc, bind_assoc]
    simp only [pure_bind, ih]

namespace Engine

/-- The engine with another limit. -/
def withMaxDepth (e : Engine) (maxDepth : Nat) : Engine :=
  { e with config := { e.config with maxDepth } }

/-! ## Invocations -/

section

variable (e : Engine) (files : Files) (depth : Nat)

/-- The texts of slots whose contents are rendered at a depth. -/
def fillSlots (slots : List Slot) : Rendering SlotMap :=
  slots.foldlM (fun filled slot => do
    let text ← capture (e.renderNodes files depth slot.content)
    return filled.insert slot.name text) SlotMap.empty

theorem renderNodes_eq (ns : List Node) :
    e.renderNodes files depth ns =
      renderAll e.config.autoescape (e.invoke files (e.renderNested files depth)) ns := by
  rw [renderNodes, renderLevels_eq_renderNested]

/-- An invocation fills its slots at the depth of the template in which it stands, and renders the
component's template one level deeper. -/
theorem renderNodes_invocation (c : Component) (tag : String) (args : List Argument)
    (slots : List Slot) (span : Span) :
    e.renderNodes files depth [.invocation c tag args slots span] = (do
      let filled ← e.fillSlots files depth slots
      let scope := (← get).scope
      match c.context filled (Dict.ofList (args.map fun a => (a.name, a.value.eval scope))) with
      | .error cause => throw (.validation c.name cause)
      | .ok data =>
        let t ← e.getTemplate files (c.templateName e.config.extension)
        write (← e.renderNested files depth t data)) := by
  simp only [renderNodes_eq, renderAll, Node.render, renderSlots_eq_foldlM, bind_pure_unit,
    fillSlots]
  rfl

/-- At the limit, an invocation fails once its slots are filled, its arguments suit the component
and the template is found. -/
theorem renderNodes_invocation_limit {c : Component} {tag : String} {args : List Argument}
    {slots : List Slot} {span : Span} (deep : e.config.maxDepth ≤ depth) {p q : Pass}
    {filled : SlotMap} {data : Data} {t : Template}
    (fills : e.fillSlots files depth slots p = (.ok filled, q))
    (suits : c.context filled (Dict.ofList (args.map fun a => (a.name, a.value.eval q.scope))) =
      .ok data)
    (found : (e.fetch files (c.templateName e.config.extension) q.cache).1 = .ok t) :
    (e.renderNodes files depth [.invocation c tag args slots span] p).1 =
      .error (.recursionLimit t.name e.config.maxDepth) := by
  have stops : e.renderNested files depth t data =
      throw (.recursionLimit t.name e.config.maxDepth) := by
    have deeper : depth + 1 > e.config.maxDepth := by omega
    rw [renderNested, if_pos deeper]
  have got : ∃ cache, e.getTemplate files (c.templateName e.config.extension) q =
      (.ok t, { q with cache }) := by
    rw [getTemplate, ← found]
    exact ⟨_, rfl⟩
  obtain ⟨cache, got⟩ := got
  simp only [renderNodes_invocation, bind_run, fills, get_run, suits, got, stops]
  rfl

end

/-! ## Limits -/

section

variable {e : Engine} {files : Files} {t : Template} {data : Data}

/-- A rendering that does not reach the limit gives the same with a higher one. -/
theorem renderTemplate_of_le {d d' : Nat} (le : d ≤ d')
    (within : ¬ HitsLimit ((e.withMaxDepth d).renderTemplate files t data).1) :
    ((e.withMaxDepth d').renderTemplate files t data).1 =
      ((e.withMaxDepth d).renderTemplate files t data).1 := by
  let L : Lockstep := .sameCaches RenderError.IsLimit
  have engines : L.Engines (e.withMaxDepth d) (e.withMaxDepth d') files :=
    Lockstep.engines_of_fetch _ rfl rfl fun _ _ => rfl
  -- Where the lower limit stops the first rendering, the second one may go on.
  have limit (t : Template) (data : Data) (s s' : Scope) (before : String) :
      L.Agree s s' before ((e.withMaxDepth d).renderLevels files 0 t data)
        ((e.withMaxDepth d').renderLevels files (d' - d) t data) Eq := .stop trivial _
  have agree := Lockstep.agree_renderLevels engines (d' - d) limit (d + 1) t data .empty .empty ""
  have levels : d + 1 + (d' - d) = d' + 1 := by omega
  rw [levels] at agree
  have start : L.States .empty .empty "" ⟨.empty, "", e.cache⟩ ⟨.empty, "", e.cache⟩ :=
    ⟨rfl, rfl, rfl, rfl⟩
  obtain ⟨same, _⟩ | ⟨err, failure, isLimit⟩ := agree.results start
  · exact same.symm
  · exact absurd ⟨err, failure, isLimit⟩ within

/-- Templates nest at most so many levels below nodes. -/
def NestsWithin (e : Engine) (files : Files) : Nat → List Node → Prop
  | 0, ns => ∀ n ∈ ns, n.Everywhere fun n => n.component? = none
  | levels + 1, ns => ∀ n ∈ ns, n.Everywhere fun n => ∀ c ∈ n.component?, ∀ t,
      e.Provides files (c.templateName e.config.extension) t → e.NestsWithin files levels t.nodes

theorem not_isLimit_of_load {name : String} {err : RenderError}
    (failure : e.load files name = .error err) : ¬ err.IsLimit := by
  unfold load at failure
  split at failure
  · cases failure
    exact id
  · cases compiled : e.compileNamed name _ with
    | ok t =>
      rw [compiled] at failure
      cases failure
    | error cause =>
      rw [compiled] at failure
      cases failure
      exact id

/-- Renderings that cannot fail for their depth. -/
def nesting (e : Engine) (files : Files) : Lockstep :=
  ⟨fun _ => False, fun err => ¬ err.IsLimit,
    fun cache cache' => cache = cache' ∧ cache.Holds (e.Provides files)⟩

/-- By induction on the levels below a template: `more` levels are never needed. -/
theorem agree_of_nestsWithin (levels more : Nat) (t : Template)
    (nests : e.NestsWithin files levels t.nodes) (data : Data) (s s' : Scope) (before : String) :
    (e.nesting files).Agree s s' before (e.renderLevels files (levels + more + 1) t data)
      (e.renderLevels files (levels + more + 1) t data) Eq := by
  induction levels generalizing t data s s' before with
  | zero =>
    have invoked : (e.nesting files).Invokes (fun _ => False)
        (e.invoke files (e.renderLevels files (0 + more)))
        (e.invoke files (e.renderLevels files (0 + more))) := fun _ h => h.elim
    have flat : ∀ n ∈ t.nodes, n.Everywhere fun n => ∀ c ∈ n.component?, False := by
      intro n hn
      refine (nests n hn).mono fun n none c some => ?_
      rw [none] at some
      cases some
    exact Lockstep.agree_renderLevels_succ rfl invoked flat data s s' before
  | succ levels ih =>
    have finds (name : String) (cache cache' : Cache)
        (h : (e.nesting files).caches cache cache') :
        (e.nesting files).Finds e e files name (e.Provides files name) cache cache' := by
      obtain ⟨rfl, provided⟩ := h
      obtain ⟨found, kept⟩ := fetch_keeps (fun _ _ loaded => .inr loaded) provided name
      exact ⟨rfl, ⟨rfl, kept⟩, fun err failure => not_isLimit_of_load (load_of_fetch_error failure),
        found⟩
    have invoked : (e.nesting files).Invokes
        (fun c => ∀ t, e.Provides files (c.templateName e.config.extension) t →
          e.NestsWithin files levels t.nodes)
        (e.invoke files (e.renderLevels files (levels + 1 + more)))
        (e.invoke files (e.renderLevels files (levels + 1 + more))) := by
      intro c below slots args
      have deeper : levels + 1 + more = levels + more + 1 := by omega
      rw [deeper]
      exact Lockstep.agree_invoke rfl (fun _ => id) (finds _)
        (fun t data provided => ih t (below t provided) data) slots args
    exact Lockstep.agree_renderLevels_succ rfl invoked nests data s s' before

/-- Templates that nest within the limit do not reach it, however deep invocations nest in slots. -/
theorem not_hitsLimit_of_nestsWithin {levels : Nat} (le : levels ≤ e.config.maxDepth)
    (nests : e.NestsWithin files levels t.nodes) :
    ¬ HitsLimit (e.renderTemplate files t data).1 := by
  rintro ⟨err, failure, isLimit⟩
  have agree := agree_of_nestsWithin levels (e.config.maxDepth - levels) t nests data .empty .empty
    ""
  have enough : levels + (e.config.maxDepth - levels) = e.config.maxDepth := by omega
  rw [enough] at agree
  have start : (e.nesting files).States .empty .empty "" ⟨.empty, "", e.cache⟩
      ⟨.empty, "", e.cache⟩ := ⟨rfl, rfl, rfl, rfl, fun _ _ => .inl⟩
  rcases agree.errors start failure with other | excused
  · exact other isLimit
  · exact excused

end

/-- A limit turns results into failures for their depth and changes nothing else. The depth is that
of templates inside one another: a template is rendered at depth zero, an invocation fills its slots
at the depth at which it stands and renders its template one level deeper. So a template whose
components' templates invoke nothing needs one level, and without a level each invocation fails that
gets as far as its template. -/
theorem renderTemplate_maxDepth (e : Engine) (files : Files) :
    (∀ t data d d', d ≤ d' → ¬ HitsLimit ((e.withMaxDepth d).renderTemplate files t data).1 →
      ((e.withMaxDepth d').renderTemplate files t data).1 =
        ((e.withMaxDepth d).renderTemplate files t data).1) ∧
    (∀ t data, e.renderTemplate files t data =
      let (result, p) := isolate data (e.renderNodes files 0 t.nodes) ⟨.empty, "", e.cache⟩
      (result, { e with cache := p.cache })) ∧
    (∀ depth c tag args slots span,
      e.renderNodes files depth [.invocation c tag args slots span] = (do
        let filled ← e.fillSlots files depth slots
        let scope := (← get).scope
        match c.context filled (Dict.ofList (args.map fun a => (a.name, a.value.eval scope))) with
        | .error cause => throw (.validation c.name cause)
        | .ok data =>
          let t ← e.getTemplate files (c.templateName e.config.extension)
          write (← e.renderNested files depth t data))) ∧
    (∀ t,
      (∀ n ∈ t.nodes, n.Everywhere fun n => ∀ c ∈ n.component?, ∀ u,
        e.Provides files (c.templateName e.config.extension) u →
          ∀ n ∈ u.nodes, n.Everywhere fun n => n.component? = none) →
      ∀ data d, 1 ≤ d → ¬ HitsLimit ((e.withMaxDepth d).renderTemplate files t data).1) ∧
    ∀ depth c tag args slots span p filled q data t,
      (e.withMaxDepth 0).fillSlots files depth slots p = (.ok filled, q) →
      c.context filled (Dict.ofList (args.map fun a => (a.name, a.value.eval q.scope))) = .ok data →
      (e.fetch files (c.templateName e.config.extension) q.cache).1 = .ok t →
      ((e.withMaxDepth 0).renderNodes files depth [.invocation c tag args slots span] p).1 =
        .error (.recursionLimit t.name 0) := by
  refine ⟨fun _ _ _ _ => renderTemplate_of_le, renderTemplate_depth e files,
    renderNodes_invocation e files, ?_, ?_⟩
  · intro t flat data d positive
    have nests : (e.withMaxDepth d).NestsWithin files 1 t.nodes := flat
    exact not_hitsLimit_of_nestsWithin positive nests
  · intro depth c tag args slots span p filled q data t fills suits found
    exact renderNodes_invocation_limit (e.withMaxDepth 0) files depth (Nat.zero_le depth) fills
      suits found

theorem renderTemplate_maxDepth_card :
    let card := Component.named "card"
    let e := (Engine.default.addBuiltins (Library.empty.component card)).addTemplate
      "components/card.html" "[{% slot %}{% /slot %}]"
    let files := Files.inDirectory []
    let source := "{% card %}{% card %}{% card %}x{% /card %}{% /card %}{% /card %}"
    let start : Pass := ⟨.empty, "", e.cache⟩
    ∃ t, e.compileNamed "page" source = .ok t ∧
      ¬ HitsLimit ((e.withMaxDepth 1).renderTemplate files t Dict.empty).1 ∧
      ((e.withMaxDepth 64).renderTemplate files t Dict.empty).1 =
        ((e.withMaxDepth 1).renderTemplate files t Dict.empty).1 ∧
      ((e.withMaxDepth 0).renderNodes files 0 [.invocation card "card/" [] [] ⟨0, 0⟩] start).1 =
        .error (.recursionLimit "components/card.html" 0) := by
  intro card e files source start
  obtain ⟨t, compiled⟩ : ∃ t, e.compileNamed "page" source = .ok t :=
    exists_eq_ok (by decide +kernel)
  have invoked : ∀ t, e.compileNamed "page" source = .ok t → ∀ n ∈ t.nodes,
      n.Everywhere fun n => ∀ c ∈ n.component?, c.templateName "html" = "components/card.html" := by
    decide +kernel
  have loaded : ∀ u, e.load files "components/card.html" = .ok u →
      ∀ n ∈ u.nodes, n.Everywhere fun n => n.component? = none := by decide +kernel
  have flat : ∀ n ∈ t.nodes, n.Everywhere fun n => ∀ c ∈ n.component?, ∀ u,
      e.Provides files (c.templateName e.config.extension) u →
        ∀ n ∈ u.nodes, n.Everywhere fun n => n.component? = none := by
    intro n hn
    refine (invoked t compiled n hn).mono fun n named c hc u provided => ?_
    have name : c.templateName e.config.extension = "components/card.html" := named c hc
    rw [name] at provided
    rcases provided with kept | success
    · have empty : none = some u := kept
      cases empty
    · exact loaded u success
  obtain ⟨higher, -, -, one, zero⟩ := renderTemplate_maxDepth e files
  have within := one t flat Dict.empty 1 (Nat.le_refl 1)
  let result := (e.fetch files (card.templateName e.config.extension) start.cache).1
  obtain ⟨u, found⟩ : ∃ u, result = .ok u := exists_eq_ok (by decide +kernel)
  have name : ∀ u, result = .ok u → u.name = "components/card.html" := by decide +kernel
  refine ⟨t, compiled, within, higher t Dict.empty 1 64 (by decide) within, ?_⟩
  have fails := zero 0 card "card/" [] [] ⟨0, 0⟩ start SlotMap.empty start _ u rfl rfl found
  rw [fails, name u found]

end Engine

end SlotTemplate

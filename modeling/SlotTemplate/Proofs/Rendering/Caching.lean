import SlotTemplate.Component.Stock
import SlotTemplate.Proofs.Rendering.Lockstep
import SlotTemplate.Proofs.Result

/-!
# Keeping compiled templates changes no answer

An engine is called again and again: templates and sources come, templates are compiled and
rendered, and the cache is cleared. With caching on, it answers all calls as it would with caching
off.

* `Engine.Faithful`: what is kept under a name is what would be loaded under it now;
* `Engine.renderTemplate_uncached`, `Engine.render_uncached`: a faithful cache changes no rendering;
* `Engine.answer_uncached`: a call is answered the same without caching and keeps the cache
  faithful;
* `Engine.cache_transparent`: all calls are answered the same.
-/

namespace SlotTemplate

open Rendering

/-- What an engine may be asked for once its libraries are set. -/
inductive Call where
  | addTemplate (name source : String)
  | addSource (source : TemplateSource)
  | getTemplate (name : String)
  | render (name : String) (data : Data)
  | renderSource (source : String) (data : Data)
  | renderTemplate (t : Template) (data : Data)
  | compile (source : String)
  | clearCache

/-- What an engine answers. -/
inductive Answer where
  | done
  | template (result : Except RenderError Template)
  | compiled (result : Except CompileError Template)
  | text (result : Except RenderError String)

namespace Engine

/-- The answer to a call, and the engine afterwards. -/
def answer (e : Engine) (files : Files) : Call → Answer × Engine
  | .addTemplate name source => (.done, e.addTemplate name source)
  | .addSource source => (.done, e.addSource source)
  | .getTemplate name =>
    let (result, cache) := e.fetch files name e.cache
    (.template result, { e with cache })
  | .render name data => (e.render files name data).map .text id
  | .renderSource source data => (e.renderSource files source data).map .text id
  | .renderTemplate t data => (e.renderTemplate files t data).map .text id
  | .compile source => (.compiled (e.compileNamed unnamed source), e)
  | .clearCache => (.done, e.clearCache)

/-- The answers to calls one after another, and the engine afterwards. -/
def answers (files : Files) : Engine → List Call → List Answer × Engine
  | e, [] => ([], e)
  | e, call :: calls =>
    let (a, e) := e.answer files call
    let (as, e) := answers files e calls
    (a :: as, e)

theorem answers_cons (files : Files) (e : Engine) (call : Call) (calls : List Call) :
    answers files e (call :: calls) =
      ((e.answer files call).1 :: (answers files (e.answer files call).2 calls).1,
        (answers files (e.answer files call).2 calls).2) :=
  rfl

/-- An engine before its first call, with caching on or off. -/
def fresh (e : Engine) (caching : Bool) : Engine :=
  { e with config := { e.config with cacheTemplates := caching }, cache := Dict.empty }

/-- What a cache holds under a name is what would be loaded under it now. -/
def Faithful (e : Engine) (files : Files) (cache : Cache) : Prop :=
  cache.Holds fun name t => e.load files name = .ok t

variable {e : Engine} {files : Files} {cache : Cache}

theorem templateSource_eq_ok_iff {name text : String} :
    e.templateSource files name = .ok text ↔
      (e.memory.get? name).or (e.sources.findSome? (·.text? files name)) = some text := by
  unfold templateSource
  cases e.memory.get? name with
  | some text => simp
  | none => cases e.sources.findSome? (·.text? files name) <;> simp

theorem load_eq_ok_iff {name : String} {t : Template} :
    e.load files name = .ok t ↔
      ∃ text, e.templateSource files name = .ok text ∧ e.compileNamed name text = .ok t := by
  unfold load
  cases e.templateSource files name <;> simp

theorem faithful_empty : e.Faithful files Dict.empty := by
  rintro name t ⟨⟩

theorem fetch_faithful (h : e.Faithful files cache) (name : String) :
    (e.fetch files name cache).1 = e.load files name ∧
      e.Faithful files (e.fetch files name cache).2 := by
  obtain ⟨found, kept⟩ := fetch_keeps (fun _ _ loaded => loaded) h name
  refine ⟨?_, kept⟩
  cases result : (e.fetch files name cache).1 with
  | ok t => exact (found t result).symm
  | error err => exact (load_of_fetch_error result).symm

/-! ## Renderings -/

/-- An engine with a faithful cache beside the same engine without caching. -/
def caching (e : Engine) (files : Files) : Lockstep :=
  ⟨fun _ => False, fun _ => True, fun cache cache' => e.Faithful files cache ∧ cache' = Dict.empty⟩

theorem caching_engines (e : Engine) (files : Files) :
    (e.caching files).Engines e (e.fresh false) files := by
  refine ⟨rfl, rfl, fun _ _ => trivial, fun name cache cache' caches => ?_⟩
  obtain ⟨faithful, rfl⟩ := caches
  obtain ⟨same, kept⟩ := fetch_faithful faithful name
  exact ⟨same, ⟨kept, rfl⟩, fun _ _ => trivial, fun _ _ => trivial⟩

/-- What a step of an engine comes to, beside what it comes to without caching: the result is the
same, the engines differ in their caches alone, and the cache is faithful. -/
structure Transparent {α : Type} (files : Files) (x y : α × Engine) : Prop where
  result : y.1 = x.1
  engine : y.2 = x.2.fresh false
  faithful : x.2.Faithful files x.2.cache

theorem Transparent.map {α β : Type} {x y : α × Engine} (h : Transparent files x y) (f : α → β) :
    Transparent files (x.map f id) (y.map f id) :=
  ⟨congrArg f h.result, h.engine, h.faithful⟩

theorem renderTemplate_uncached (h : e.Faithful files e.cache) (t : Template) (data : Data) :
    Transparent files (e.renderTemplate files t data)
      ((e.fresh false).renderTemplate files t data) := by
  have limit (t : Template) (data : Data) (s s' : Scope) (before : String) :
      (e.caching files).Agree s s' before (e.renderLevels files 0 t data)
        ((e.fresh false).renderLevels files 0 t data) Eq := .throw trivial
  have agree := Lockstep.agree_renderLevels (caching_engines e files) 0 limit
    (e.config.maxDepth + 1) t data .empty .empty ""
  have start : (e.caching files).States .empty .empty "" ⟨.empty, "", e.cache⟩
      ⟨.empty, "", Dict.empty⟩ := ⟨rfl, rfl, rfl, h, rfl⟩
  obtain ⟨same, states⟩ := agree.same_results (fun _ => id) start
  obtain ⟨kept, empty⟩ := states.caches
  exact ⟨same.symm, congrArg (fun cache => { e.fresh false with cache }) empty, kept⟩

theorem fetch_uncached (name : String) :
    (e.fresh false).fetch files name (e.fresh false).cache = (e.load files name, Dict.empty) := rfl

theorem render_uncached (h : e.Faithful files e.cache) (name : String) (data : Data) :
    Transparent files (e.render files name data) ((e.fresh false).render files name data) := by
  obtain ⟨same, kept⟩ := fetch_faithful h name
  rw [Engine.render, Engine.render, fetch_uncached, ← same]
  generalize e.fetch files name e.cache = x at kept
  obtain ⟨result, cache⟩ := x
  cases result with
  | error err => exact ⟨rfl, rfl, kept⟩
  | ok t => exact renderTemplate_uncached kept t data

theorem renderSource_uncached (h : e.Faithful files e.cache) (source : String) (data : Data) :
    Transparent files (e.renderSource files source data)
      ((e.fresh false).renderSource files source data) := by
  have compiled : (e.fresh false).compileNamed unnamed source = e.compileNamed unnamed source := rfl
  rw [Engine.renderSource, Engine.renderSource, compiled]
  cases e.compileNamed unnamed source with
  | error err => exact ⟨rfl, rfl, h⟩
  | ok t => exact renderTemplate_uncached h t data

/-- With a faithful cache, a name is rendered as the template that is loaded under it. -/
theorem render_load (h : e.Faithful files e.cache) (name : String) (data : Data) :
    (e.render files name data).1 =
      e.load files name >>= fun t => (e.renderTemplate files t data).1 := by
  rw [← (render_uncached h name data).result, Engine.render, fetch_uncached]
  cases e.load files name with
  | error err => rfl
  | ok t => exact (renderTemplate_uncached h t data).result

/-! ## Calls -/

theorem load_addTemplate_of_ne {name other : String} (source : String) (h : name ≠ other) :
    (e.addTemplate name source).load files other = e.load files other := by
  have memory : (e.addTemplate name source).memory.get? other = e.memory.get? other :=
    Dict.get?_insert_of_ne e.memory source h
  unfold load templateSource
  rw [memory]
  rfl

theorem load_addTemplate (e : Engine) (files : Files) (name source : String) :
    (e.addTemplate name source).load files name =
      (e.compileNamed name source).mapError (.compile name) := by
  rw [load, templateSource_memory files (Dict.get?_insert_self _ _ _)]
  rfl

/-- With sources that compile to templates which compare, two engines load such templates. -/
theorem sameOutcome_load_addTemplate {name source source' : String} {t t' : Template}
    {R : String → Template → Template → Prop} (compiled : e.compileNamed name source = .ok t)
    (compiled' : e.compileNamed name source' = .ok t') (here : R name t t')
    (others : ∀ other u, (e.addTemplate name source).load files other = .ok u → R other u u)
    (other : String) :
    SameOutcome (R other) ((e.addTemplate name source).load files other)
      ((e.addTemplate name source').load files other) := by
  by_cases same : name = other
  · subst same
    rw [load_addTemplate, load_addTemplate, compiled, compiled']
    exact .ok here
  · have alike : (e.addTemplate name source').load files other =
        (e.addTemplate name source).load files other := by
      rw [load_addTemplate_of_ne _ same, load_addTemplate_of_ne _ same]
    rw [alike]
    cases loaded : (e.addTemplate name source).load files other with
    | ok u => exact .ok (others other u loaded)
    | error err => exact .error err

/-- A source that comes last does not hide what was found before. -/
theorem load_addSource {name : String} {t : Template} (source : TemplateSource)
    (h : e.load files name = .ok t) : (e.addSource source).load files name = .ok t := by
  obtain ⟨text, found, compiled⟩ := load_eq_ok_iff.1 h
  refine load_eq_ok_iff.2 ⟨text, ?_, compiled⟩
  rw [templateSource_eq_ok_iff] at found ⊢
  have sources : (e.addSource source).sources = e.sources ++ [source] := rfl
  have memory : (e.addSource source).memory = e.memory := rfl
  rw [sources, memory, List.findSome?_append, ← Option.or_assoc, found, Option.some_or]

theorem faithful_addTemplate (h : e.Faithful files e.cache) (name source : String) :
    (e.addTemplate name source).Faithful files (e.addTemplate name source).cache := by
  intro other t found
  have kept : (e.cache.erase name).get? other = some t := found
  rw [Dict.get?_erase] at kept
  by_cases same : name = other
  · rw [if_pos same] at kept
    cases kept
  · rw [if_neg same] at kept
    rw [load_addTemplate_of_ne source same]
    exact h other t kept

theorem faithful_addSource (h : e.Faithful files e.cache) (source : TemplateSource) :
    (e.addSource source).Faithful files (e.addSource source).cache :=
  fun name t found => load_addSource source (h name t found)

/-- A call is answered as it is without caching. -/
theorem answer_uncached (h : e.Faithful files e.cache) (call : Call) :
    Transparent files (e.answer files call) ((e.fresh false).answer files call) := by
  cases call with
  | addTemplate name source => exact ⟨rfl, rfl, faithful_addTemplate h name source⟩
  | addSource source => exact ⟨rfl, rfl, faithful_addSource h source⟩
  | getTemplate name =>
    obtain ⟨same, kept⟩ := fetch_faithful h name
    exact ⟨congrArg Answer.template same.symm, rfl, kept⟩
  | render name data => exact (render_uncached h name data).map Answer.text
  | renderSource source data => exact (renderSource_uncached h source data).map Answer.text
  | renderTemplate t data => exact (renderTemplate_uncached h t data).map Answer.text
  | compile source => exact ⟨rfl, rfl, h⟩
  | clearCache => exact ⟨rfl, rfl, faithful_empty⟩

/-- All calls one after another are. -/
theorem answers_uncached (h : e.Faithful files e.cache) (calls : List Call) :
    Transparent files (answers files e calls) (answers files (e.fresh false) calls) := by
  induction calls generalizing e with
  | nil => exact ⟨rfl, rfl, h⟩
  | cons call calls ih =>
    obtain ⟨answer, engine, kept⟩ := answer_uncached h call
    have rest := ih kept
    rw [← engine] at rest
    rw [answers_cons, answers_cons, answer, rest.result]
    exact ⟨rfl, rest.engine, rest.faithful⟩

/-- An engine with caching answers all calls like one without. What it keeps is what it would load
now, and nothing is kept under a name that cannot be loaded. Without caching, nothing is kept. With
or without, the rendering of a name is that of the template that its text compiles to. -/
theorem cache_transparent (e : Engine) (files : Files) (calls : List Call) :
    let cached := answers files (e.fresh true) calls
    let plain := answers files (e.fresh false) calls
    plain.1 = cached.1 ∧ plain.2.cache.size = 0 ∧
      (∀ name t, cached.2.cache.get? name = some t →
        ∃ text, cached.2.templateSource files name = .ok text ∧
          cached.2.compileNamed name text = .ok t) ∧
      (∀ name err, cached.2.load files name = .error err → cached.2.cache.get? name = none) ∧
      ∀ last ∈ [cached.2, plain.2], ∀ name data,
        (last.render files name data).1 = (do
          let text ← (last.templateSource files name).mapError .notFound
          let t ← (last.compileNamed name text).mapError (.compile name)
          (last.renderTemplate files t data).1) := by
  intro cached plain
  obtain ⟨result, engine, faithful⟩ : Transparent files cached plain :=
    answers_uncached faithful_empty calls
  have empty : plain.2.cache = Dict.empty := by rw [engine]; rfl
  refine ⟨result, by rw [empty]; rfl, fun name t found => load_eq_ok_iff.1 (faithful name t found),
    fun name err failure => ?_, fun last mem name data => ?_⟩
  · cases found : cached.2.cache.get? name with
    | none => rfl
    | some t =>
      have success : cached.2.load files name = .ok t := faithful name t found
      rw [failure] at success
      cases success
  · have kept : last.Faithful files last.cache := by
      simp only [List.mem_cons, List.not_mem_nil, or_false] at mem
      rcases mem with rfl | rfl
      · exact faithful
      · rw [empty]
        exact faithful_empty
    rw [render_load kept, load]
    cases last.templateSource files name <;> rfl

theorem cache_transparent_card :
    let e := Engine.default.addBuiltins (Library.empty.component (Component.named "card"))
    let files := Files.inDirectory []
    let name := "components/card.html"
    let page := Call.renderSource "{% card/ %}" Dict.empty
    let calls := [.addTemplate name "a", page, .addTemplate name "b", page,
      .render "missing.html" Dict.empty]
    let cached := answers files (e.fresh true) calls
    let plain := answers files (e.fresh false) calls
    plain.1 = cached.1 ∧ plain.2.cache.size = 0 ∧
      (∃ t, cached.2.cache.get? name = some t ∧ cached.2.compileNamed name "b" = .ok t) ∧
      cached.2.cache.get? "missing.html" = none ∧
      (cached.2.render files name Dict.empty).1 = (do
        let t ← (cached.2.compileNamed name "b").mapError (.compile name)
        (cached.2.renderTemplate files t Dict.empty).1) := by
  intro e files name page calls cached plain
  obtain ⟨same, empty, entries, failures, renderings⟩ := cache_transparent e files calls
  have memory : cached.2.memory.get? name = some "b" := by decide +kernel
  have source : cached.2.templateSource files name = .ok "b" := templateSource_memory files memory
  refine ⟨same, empty, ?_, ?_, ?_⟩
  · have kept : (cached.2.cache.get? name).isSome := by decide +kernel
    obtain ⟨t, found⟩ := Option.isSome_iff_exists.1 kept
    obtain ⟨text, read, compiled⟩ := entries name t found
    cases source.symm.trans read
    exact ⟨t, found, compiled⟩
  · have fails : (cached.2.load files "missing.html").isOk = false := by decide +kernel
    cases result : cached.2.load files "missing.html" with
    | ok t => simp [result, Except.isOk, Except.toBool] at fails
    | error err => exact failures "missing.html" err result
  · have rendering := renderings cached.2 List.mem_cons_self name Dict.empty
    rw [source] at rendering
    exact rendering

end Engine

end SlotTemplate

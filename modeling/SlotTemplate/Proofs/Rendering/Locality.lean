import SlotTemplate.Component.Stock
import SlotTemplate.Proofs.Rendering.Lockstep
import SlotTemplate.Proofs.Result

/-!
# Rendering is local

Nodes read the scope in which they stand at their free names only, and they leave it as it was. What
they write does not depend on what was written before.

* `Engine.renderNodes_congr`: two scopes with the same values of the free names give the same;
* `Engine.renderNodes_frame`: nodes change no scope and append to the output.
-/

namespace SlotTemplate

open Rendering

namespace Engine

/-- Renders nodes at a depth: with so many templates around the one in which they stand. -/
def renderNodes (e : Engine) (files : Files) (depth : Nat) (ns : List Node) : Rendering Unit :=
  renderAll e.config.autoescape (e.invoke files (e.renderLevels files (e.config.maxDepth - depth)))
    ns

/-- Renders the template of a component that is invoked at a depth: one level deeper and in a scope
of its own, unless that is deeper than the limit. -/
def renderNested (e : Engine) (files : Files) (depth : Nat) (t : Template) (data : Data) :
    Rendering String :=
  if depth + 1 > e.config.maxDepth then throw (.recursionLimit t.name e.config.maxDepth)
  else isolate data (e.renderNodes files (depth + 1) t.nodes)

theorem renderLevels_eq_renderNested (e : Engine) (files : Files) (depth : Nat) :
    e.renderLevels files (e.config.maxDepth - depth) = e.renderNested files depth := by
  funext t data
  rw [renderNested]
  by_cases deep : depth + 1 > e.config.maxDepth
  · have none : e.config.maxDepth - depth = 0 := by omega
    rw [if_pos deep, none]
    rfl
  · have levels : e.config.maxDepth - depth = e.config.maxDepth - (depth + 1) + 1 := by omega
    rw [if_neg deep, levels]
    rfl

/-- A template is rendered at depth zero. -/
theorem renderTemplate_depth (e : Engine) (files : Files) (t : Template) (data : Data) :
    e.renderTemplate files t data =
      let (result, p) := isolate data (e.renderNodes files 0 t.nodes) ⟨.empty, "", e.cache⟩
      (result, { e with cache := p.cache }) :=
  rfl

end Engine

/-- Renderings that start with the same compiled templates and do the same throughout. -/
def Lockstep.same : Lockstep := sameCaches fun _ => False

/-- An engine agrees with itself about all components. -/
theorem Lockstep.Engines.invokes {L : Lockstep} {e : Engine} {files : Files}
    (engines : L.Engines e e files) (common : ∀ err, L.common err) (levels : Nat) :
    L.Invokes (fun _ => True) (e.invoke files (e.renderLevels files levels))
      (e.invoke files (e.renderLevels files levels)) := by
  have limit (t : Template) (data : Data) (s s' : Scope) (before : String) :
      L.Agree s s' before (e.renderLevels files 0 t data) (e.renderLevels files 0 t data) Eq := by
    rw [Engine.renderLevels]
    exact .throw (common _)
  intro c _ slots args
  exact agree_invoke rfl (engines.validation c.name) (engines.finds _)
    (fun t data _ => agree_renderLevels engines 0 limit levels t data) slots args

/-- It agrees with itself about nodes, in all scopes with the same values of the free names. -/
theorem Lockstep.agree_renderNodes {L : Lockstep} {e : Engine} {files : Files}
    (engines : L.Engines e e files) (common : ∀ err, L.common err) (depth : Nat) {ns : List Node}
    {s s' : Scope} (hs : s.AgreeOn s' (freeNamesOfAll ns)) (before : String) :
    L.Agree s s' before (e.renderNodes files depth ns) (e.renderNodes files depth ns) Eq :=
  agree_renderAll (engines.invokes common _)
    (fun n _ => n.everywhere_of_forall fun _ _ _ => trivial) hs before

theorem Lockstep.same_engines (e : Engine) (files : Files) : same.Engines e e files :=
  engines_of_fetch _ rfl rfl fun _ _ => rfl

theorem Lockstep.same_renderNodes (e : Engine) (files : Files) (depth : Nat) {ns : List Node}
    {s s' : Scope} (hs : s.AgreeOn s' (freeNamesOfAll ns)) (before : String) :
    same.Agree s s' before (e.renderNodes files depth ns) (e.renderNodes files depth ns) Eq :=
  agree_renderNodes (same_engines e files) (fun _ => trivial) depth hs before

/-- Two runs that agree without excuse end with the same result, in the scopes in which they
started. -/
theorem Lockstep.Agree.run_both {L : Lockstep} {s s' : Scope} {before : String}
    {m m' : Rendering Unit} (h : L.Agree s s' before m m' Eq) (strict : ∀ err, ¬ L.excused err)
    {cache cache' : Cache} (caches : L.caches cache cache') (out : String) :
    ∃ result written compiled compiled', L.caches compiled compiled' ∧
      m ⟨s, before ++ out, cache⟩ = (result, ⟨s, before ++ written, compiled⟩) ∧
      m' ⟨s', out, cache'⟩ = (result, ⟨s', written, compiled'⟩) := by
  have outcomes := h ⟨s, before ++ out, cache⟩ ⟨s', out, cache'⟩ ⟨rfl, rfl, rfl, caches⟩
  generalize m ⟨s, before ++ out, cache⟩ = x, m' ⟨s', out, cache'⟩ = y at outcomes
  have alike {p q : Pass} (states : L.States s s' before p q) :
      p = ⟨s, before ++ q.out, p.cache⟩ ∧ q = ⟨s', q.out, q.cache⟩ := by
    constructor
    · rw [← states.left, ← states.out]
    · rw [← states.right]
  cases outcomes with
  | ok results states =>
    cases results
    obtain ⟨left, right⟩ := alike states
    exact ⟨_, _, _, _, states.caches, congrArg _ left, congrArg _ right⟩
  | failed common states =>
    obtain ⟨left, right⟩ := alike states
    exact ⟨_, _, _, _, states.caches, congrArg _ left, congrArg _ right⟩
  | excused h => exact absurd h (strict _)

/-- Two such runs with the same compiled templates end with the same ones. -/
theorem Lockstep.Agree.runs {s s' : Scope} {before : String} {m : Rendering Unit}
    (h : same.Agree s s' before m m Eq) (out : String) (cache : Cache) :
    ∃ result written compiled,
      m ⟨s, before ++ out, cache⟩ = (result, ⟨s, before ++ written, compiled⟩) ∧
      m ⟨s', out, cache⟩ = (result, ⟨s', written, compiled⟩) := by
  obtain ⟨result, written, compiled, _, rfl, left, right⟩ :=
    h.run_both (fun _ => id) (rfl : same.caches cache cache) out
  exact ⟨result, written, compiled, left, right⟩

/-- Two steps that agree in a scope do the same there. -/
theorem Lockstep.Agree.run_eq {α : Type} {s : Scope} {m m' : Rendering α}
    (h : same.Agree s s "" m m' Eq) {p : Pass} (here : p.scope = s) : m p = m' p := by
  have outcomes := h p p ⟨here, here, (String.empty_append).symm, rfl⟩
  generalize m p = x, m' p = y at outcomes
  have alike {p q : Pass} (states : same.States s s "" p q) : p = q := by
    obtain ⟨scope, out, cache⟩ := p
    obtain ⟨left, right, written, caches⟩ := states
    cases caches
    cases written.trans String.empty_append
    cases left.trans right.symm
    rfl
  cases outcomes with
  | ok results states => rw [results, alike states]
  | failed common states => rw [alike states]
  | excused h => cases h

/-- A step may give way to one that does the same in the scope. -/
theorem Lockstep.Agree.congr_right {L : Lockstep} {α : Type} {s s' : Scope} {before : String}
    {m m' m'' : Rendering α} (h : L.Agree s s' before m m' Eq)
    (same : ∀ p, p.scope = s' → m' p = m'' p) : L.Agree s s' before m m'' Eq := by
  intro p q states
  rw [← same q states.right]
  exact h p q states

namespace Engine

variable {e : Engine} {files : Files} {depth : Nat} {ns : List Node} {cache compiled : Cache}

theorem exists_renderNodes (e : Engine) (files : Files) (depth : Nat) (ns : List Node)
    (scope : Scope) (cache : Cache) :
    ∃ result text compiled, e.renderNodes files depth ns ⟨scope, "", cache⟩ =
      (result, ⟨scope, text, compiled⟩) := by
  have agree := Lockstep.same_renderNodes e files depth (.refl scope (freeNamesOfAll ns)) ""
  obtain ⟨result, text, compiled, -, run⟩ := agree.runs "" cache
  exact ⟨result, text, compiled, run⟩

/-- What nodes come to in a scope they come to in every scope with the same values, behind what was
written before. -/
theorem renderNodes_run_of_same {s s' : Scope} (same : ∀ name, s.get? name = s'.get? name)
    {result : Except RenderError Unit} {text : String}
    (run : e.renderNodes files depth ns ⟨s, "", cache⟩ = (result, ⟨s, text, compiled⟩))
    (out : String) :
    e.renderNodes files depth ns ⟨s', out, cache⟩ = (result, ⟨s', out ++ text, compiled⟩) := by
  have agree : Lockstep.same.Agree s' s out (e.renderNodes files depth ns)
      (e.renderNodes files depth ns) Eq :=
    Lockstep.same_renderNodes e files depth (fun name _ => (same name).symm) out
  obtain ⟨result', text', compiled', behind, alone⟩ := agree.runs "" cache
  rw [String.append_empty] at behind
  cases alone.symm.trans run
  exact behind

end Engine

/-- Nodes read only their free names in the scope around them. -/
theorem Engine.renderNodes_congr (e : Engine) (files : Files) (depth : Nat) {ns : List Node}
    {s s' : Scope} (same : ∀ name ∈ freeNamesOfAll ns, s.get? name = s'.get? name) (out : String)
    (cache : Cache) :
    ∃ result written compiled,
      e.renderNodes files depth ns ⟨s, out, cache⟩ = (result, ⟨s, written, compiled⟩) ∧
      e.renderNodes files depth ns ⟨s', out, cache⟩ = (result, ⟨s', written, compiled⟩) := by
  have agree : Lockstep.same.Agree s s' "" (e.renderNodes files depth ns)
      (e.renderNodes files depth ns) Eq := Lockstep.same_renderNodes e files depth same ""
  simpa only [String.empty_append] using agree.runs out cache

theorem Engine.renderNodes_congr_card :
    let card := "{{ item }}{% slot %}{{ title }}{% /slot %}"
    let e := (Engine.default.addBuiltins
      (Library.empty.component (Component.named "card"))).addTemplate "components/card.html" card
    let source := "{% for item in xs %}{% card title=forloop.counter %}" ++
      "{{ item|default:y }}{% slot/ extra %}{% /card %}{% endfor %}"
    let files := Files.inDirectory []
    let s := (Scope.ofData (Dict.ofList [("xs", .list [.int 1, .null]), ("item", .int 2)])).push
      (Dict.ofList [("y", .bool true)])
    let s' := Scope.ofData (Dict.ofList [("xs", .list [.int 1, .null]), ("y", .bool true),
      ("title", .int 3)])
    ∃ t, e.compileNamed "page" source = .ok t ∧
      (∀ name ∈ freeNamesOfAll t.nodes, s.get? name = s'.get? name) ∧
      (s.get? "item").isSome ∧ (s'.get? "item").isNone ∧
      ∃ result written compiled,
        e.renderNodes files 0 t.nodes ⟨s, "", e.cache⟩ = (result, ⟨s, written, compiled⟩) ∧
        e.renderNodes files 0 t.nodes ⟨s', "", e.cache⟩ = (result, ⟨s', written, compiled⟩) := by
  intro card e source files s s'
  obtain ⟨t, compiled⟩ : ∃ t, e.compileNamed "page" source = .ok t :=
    exists_eq_ok (by decide +kernel)
  have names : ∀ t, e.compileNamed "page" source = .ok t →
      ∀ name ∈ freeNamesOfAll t.nodes, name ∈ ["xs", "y", "slots"] := by decide +kernel
  have same : ∀ name ∈ freeNamesOfAll t.nodes, s.get? name = s'.get? name := by
    intro name hn
    have known := names t compiled name hn
    simp only [List.mem_cons, List.not_mem_nil, or_false] at known
    rcases known with rfl | rfl | rfl <;> rfl
  exact ⟨t, compiled, same, rfl, rfl, Engine.renderNodes_congr e files 0 same "" e.cache⟩

/-- Nodes leave the scope around them as it was, whether they succeed or not, and what they append
to the output depends on the scope and the compiled templates alone. -/
theorem Engine.renderNodes_frame (e : Engine) (files : Files) (depth : Nat) (ns : List Node)
    (scope : Scope) (cache : Cache) :
    ∃ result text compiled, ∀ out,
      e.renderNodes files depth ns ⟨scope, out, cache⟩ =
        (result, ⟨scope, out ++ text, compiled⟩) := by
  refine ⟨(e.renderNodes files depth ns ⟨scope, "", cache⟩).1,
    (e.renderNodes files depth ns ⟨scope, "", cache⟩).2.out,
    (e.renderNodes files depth ns ⟨scope, "", cache⟩).2.cache, fun out => ?_⟩
  have agree := Lockstep.same_renderNodes e files depth (.refl scope (freeNamesOfAll ns)) out
  obtain ⟨result, text, compiled, left, right⟩ := agree.runs "" cache
  rw [right]
  simpa only [String.append_empty] using left

end SlotTemplate

import SlotTemplate.Proofs.Result
import SlotTemplate.Render

/-!
# Invariants of rendering

* `Rendering.Keeps`: a step keeps a property of the state, whether it succeeds or not, and what it
  gives has a property of its own; there is one lemma for each way to make a step;
* `Keeps.renderAll`, `Keeps.renderSlots`: nodes and slots are rendered one after another;
* `Node.render_marker_filled`, `Node.render_marker_empty`: what single nodes do in a state;
* `Engine.fetch_keeps`: what holds of all templates that are loaded is true of those that are kept;
* `Engine.fetch_sameOutcome`: so is what two engines have in common.
-/

namespace SlotTemplate

open Rendering

namespace Rendering

variable {α β : Type} {I : Pass → Prop} {m : Rendering α} {f : α → Rendering β} {P : α → Prop}
  {Q : β → Prop}

theorem bind_run (p : Pass) :
    (m >>= f) p = match m p with
      | (.ok a, q) => f a q
      | (.error e, q) => (.error e, q) := by
  simp only [bind, ExceptT.bind, ExceptT.mk, StateT.bind]
  rcases m p with ⟨e | a, q⟩ <;> rfl

theorem eval_run (e : Expr) (p : Pass) : eval e p = (.ok (e.eval p.scope), p) := rfl

theorem get_run (p : Pass) : (get : Rendering Pass) p = (.ok p, p) := rfl

theorem write_run (text : String) (p : Pass) :
    write text p = (.ok (), { p with out := p.out ++ text }) := rfl

/-- A step keeps a property of the state, and what it gives has a property. -/
def Keeps (I : Pass → Prop) (m : Rendering α) (P : α → Prop) : Prop :=
  ∀ p, I p → I (m p).2 ∧ ∀ a, (m p).1 = .ok a → P a

namespace Keeps

theorem pure {a : α} (h : P a) : Keeps I (Pure.pure a) P := by
  intro p hp
  refine ⟨hp, ?_⟩
  rintro _ ⟨⟩
  exact h

theorem mono {R : α → Prop} (h : Keeps I m P) (imp : ∀ a, P a → R a) : Keeps I m R :=
  fun p hp => ⟨(h p hp).1, fun a ha => imp a ((h p hp).2 a ha)⟩

theorem throw {e : RenderError} : Keeps I (throw e : Rendering α) P := by
  intro p hp
  refine ⟨hp, ?_⟩
  rintro _ ⟨⟩

theorem bind (hm : Keeps I m P) (hf : ∀ a, P a → Keeps I (f a) Q) : Keeps I (m >>= f) Q := by
  intro p hp
  have h := hm p hp
  rw [bind_run]
  rcases run : m p with ⟨e | a, q⟩
  · rw [run] at h
    refine ⟨h.1, ?_⟩
    rintro _ ⟨⟩
  · rw [run] at h
    exact hf a (h.2 a rfl) q h.1

/-- What is done with the state may use that the property holds of it. -/
theorem get_bind {k : Pass → Rendering β} (h : ∀ p, I p → Keeps I (k p) Q) :
    Keeps I (do k (← get)) Q := by
  intro p hp
  exact h p hp p hp

theorem eval {e : Expr} {R : Value → Prop} (h : ∀ p, I p → R (e.eval p.scope)) :
    Keeps I (eval e) R := by
  intro p hp
  refine ⟨hp, ?_⟩
  rintro _ ⟨⟩
  exact h p hp

theorem write {text : String} (h : ∀ p, I p → I { p with out := p.out ++ text }) :
    Keeps I (write text) fun _ => True :=
  fun p hp => ⟨h p hp, fun _ _ => trivial⟩

theorem withFrame {frame : Data} {body : Rendering Unit}
    (push : ∀ p, I p → I { p with scope := p.scope.push frame })
    (pop : ∀ p, I p → I { p with scope := p.scope.pop }) (h : Keeps I body fun _ => True) :
    Keeps I (withFrame frame body) fun _ => True :=
  fun p hp => ⟨pop _ (h _ (push p hp)).1, fun _ _ => trivial⟩

theorem capture {body : Rendering Unit} (clear : ∀ p, I p → I { p with out := "" })
    (restore : ∀ p q, I p → I q → I { q with out := p.out }) (h : Keeps I body fun _ => True) :
    Keeps I (capture body) fun text => ∃ q, I q ∧ q.out = text := by
  intro p hp
  have hq := (h _ (clear p hp)).1
  refine ⟨restore p _ hp hq, fun text ht => ?_⟩
  obtain ⟨_, _, e⟩ := map_eq_ok_iff.1 ht
  exact ⟨_, hq, e⟩

theorem isolate {data : Data} {body : Rendering Unit}
    (enter : ∀ p, I p → I ⟨.ofData data, "", p.cache⟩)
    (leave : ∀ p q, I p → I q → I { p with cache := q.cache }) (h : Keeps I body fun _ => True) :
    Keeps I (isolate data body) fun text => ∃ q, I q ∧ q.out = text := by
  intro p hp
  have hq := (h _ (enter p hp)).1
  refine ⟨leave p _ hp hq, fun text ht => ?_⟩
  obtain ⟨_, _, e⟩ := map_eq_ok_iff.1 ht
  exact ⟨_, hq, e⟩

theorem forItems {variableName : String} {total : Nat} {body : Rendering Unit} {index : Nat}
    {items : List Value}
    (push : ∀ p index item, item ∈ items → I p →
      I { p with scope := p.scope.push (loopFrame variableName index total item) })
    (pop : ∀ p, I p → I { p with scope := p.scope.pop }) (h : Keeps I body fun _ => True) :
    Keeps I (forItems variableName total body index items) fun _ => True := by
  induction items generalizing index with
  | nil => exact pure trivial
  | cons item items ih =>
    refine bind (withFrame (fun p => push p index item List.mem_cons_self) pop h) fun _ _ => ?_
    exact ih fun p index i hi => push p index i (List.mem_cons_of_mem _ hi)

theorem renderAll {autoescape : Bool} {invoke : Invoke} {ns : List Node}
    (h : ∀ n ∈ ns, Keeps I (n.render autoescape invoke) fun _ => True) :
    Keeps I (renderAll autoescape invoke ns) fun _ => True := by
  induction ns with
  | nil => exact pure trivial
  | cons n ns ih =>
    obtain ⟨here, there⟩ := List.forall_mem_cons.1 h
    exact bind here fun _ _ => ih there

/-- Slots that render to texts with a property make a map with it, if an insertion keeps it. -/
theorem renderSlots {autoescape : Bool} {invoke : Invoke} {slots : List Slot} {filled : SlotMap}
    {R : SlotMap → Prop} {T : String → Prop}
    (insert : ∀ filled name text, R filled → T text → R (filled.insert name text))
    (h : ∀ slot ∈ slots,
      Keeps I (Rendering.capture (SlotTemplate.renderAll autoescape invoke slot.content)) T)
    (start : R filled) : Keeps I (renderSlots autoescape invoke slots filled) R := by
  induction slots generalizing filled with
  | nil => exact pure start
  | cons slot slots ih =>
    obtain ⟨here, there⟩ := List.forall_mem_cons.1 h
    refine bind (P := fun r => T r.2) ?_ fun r hr => ih there (insert _ _ _ start hr)
    obtain ⟨name, content⟩ := slot
    exact bind (f := fun text => Pure.pure (name, text)) here fun text ht => pure ht

end Keeps

end Rendering

/-! ## Nodes in a state -/

namespace Node

variable {autoescape : Bool} {invoke : Invoke} {p : Pass}

/-- A variable writes what its value prints. -/
theorem render_variable_run (e : Expr) :
    (Node.variable e).render autoescape invoke p =
      write ((e.eval p.scope).render autoescape) p := by
  rw [Node.render, bind_run, eval_run]

theorem render_slotOutput_run (name : String) :
    (Node.slotOutput name).render autoescape invoke p =
      write ((filledSlot? p.scope name).getD "") p := by
  rw [Node.render, bind_run, get_run]

/-- The place of a slot that is filled writes the text of the slot. -/
theorem render_marker_filled {name text : String} (filled : filledSlot? p.scope name = some text)
    (content : List Node) (span : Span) (line : Nat) :
    (Node.marker name content span line).render autoescape invoke p = write text p := by
  rw [Node.render, bind_run, get_run]
  simp only [filled]

/-- The place of a slot that is not filled renders its own content. -/
theorem render_marker_empty {name : String} (empty : filledSlot? p.scope name = none)
    (content : List Node) (span : Span) (line : Nat) :
    (Node.marker name content span line).render autoescape invoke p =
      renderAll autoescape invoke content p := by
  rw [Node.render, bind_run, get_run]
  simp only [empty]

theorem render_conditional_run (negated : Bool) (e : Expr) (first second : List Node) :
    (Node.conditional negated e first second).render autoescape invoke p =
      if (e.eval p.scope).isTruthy != negated then renderAll autoescape invoke first p
      else renderAll autoescape invoke second p := by
  rw [Node.render, bind_run, eval_run]
  dsimp only
  split <;> rfl

end Node

theorem renderAll_singleton (autoescape : Bool) (invoke : Invoke) (node : Node) :
    renderAll autoescape invoke [node] = node.render autoescape invoke := by
  rw [renderAll, renderAll]
  exact bind_pure_unit

/-! ## Templates that are found -/

/-- A property of all compiled templates and the names under which they are kept. -/
def Cache.Holds (P : String → Template → Prop) (cache : Cache) : Prop :=
  ∀ name t, cache.get? name = some t → P name t

namespace Engine

variable {e : Engine} {files : Files} {name : String} {cache : Cache}

/-- A template was compiled before, or it is loaded. -/
def Provides (e : Engine) (files : Files) (name : String) (t : Template) : Prop :=
  e.cache.get? name = some t ∨ e.load files name = .ok t

theorem fetch_keeps {P : String → Template → Prop}
    (loaded : ∀ name t, e.load files name = .ok t → P name t) (hc : Cache.Holds P cache)
    (name : String) :
    (∀ t, (e.fetch files name cache).1 = .ok t → P name t) ∧
      Cache.Holds P (e.fetch files name cache).2 := by
  unfold Engine.fetch
  split
  · split
    · rename_i t found
      refine ⟨?_, hc⟩
      rintro _ ⟨⟩
      exact hc name t found
    · split
      · rename_i t success
        have here : P name t := loaded name t success
        refine ⟨?_, fun other u h => ?_⟩
        · rintro _ ⟨⟩
          exact here
        · rw [Dict.get?_insert] at h
          split at h
          · rename_i same
            cases h
            exact same ▸ here
          · exact hc other u h
      · refine ⟨?_, hc⟩
        rintro _ ⟨⟩
  · exact ⟨fun t h => loaded name t h, hc⟩

/-- Engines that load templates which compare, or fail to load them alike, find templates which
compare where their caches hold such ones. How templates compare may depend on their name. -/
theorem fetch_sameOutcome {e' : Engine} {cache' : Cache} {R : String → Template → Template → Prop}
    (caching : e'.config.cacheTemplates = e.config.cacheTemplates)
    (loads : ∀ name, SameOutcome (R name) (e.load files name) (e'.load files name))
    (caches : ∀ name, Option.Rel (R name) (cache.get? name) (cache'.get? name)) (name : String) :
    SameOutcome (R name) (e.fetch files name cache).1 (e'.fetch files name cache').1 ∧
      ∀ other, Option.Rel (R other) ((e.fetch files name cache).2.get? other)
        ((e'.fetch files name cache').2.get? other) := by
  have found := caches name
  have loaded := loads name
  rw [fetch, fetch, caching]
  split
  · generalize cache.get? name = x, cache'.get? name = y at found
    cases found with
    | some both => exact ⟨.ok both, caches⟩
    | none =>
      generalize e.load files name = x, e'.load files name = y at loaded
      cases loaded with
      | error err => exact ⟨.error err, caches⟩
      | ok both =>
        refine ⟨.ok both, fun other => ?_⟩
        rw [Dict.get?_insert, Dict.get?_insert]
        split
        · rename_i same
          exact .some (same ▸ both)
        · exact caches other
  · exact ⟨loaded, caches⟩

/-- Engines that find templates which compare render them alike by name if they do by themselves,
with what they have compiled then. -/
theorem render_eq_of_outcomes {e' : Engine} {data : Data} {R : Template → Template → Prop}
    (finds : SameOutcome R (e.fetch files name e.cache).1 (e'.fetch files name e'.cache).1)
    (templates : ∀ t t', (e.fetch files name e.cache).1 = .ok t → R t t' →
      (({ e with cache := (e.fetch files name e.cache).2 } : Engine).renderTemplate files t
          data).1 =
        (({ e' with cache := (e'.fetch files name e'.cache).2 } : Engine).renderTemplate files t'
          data).1) :
    (e.render files name data).1 = (e'.render files name data).1 := by
  rw [Engine.render, Engine.render]
  generalize e.fetch files name e.cache = x, e'.fetch files name e'.cache = y at *
  obtain ⟨result, cache⟩ := x
  obtain ⟨result', cache'⟩ := y
  cases finds with
  | error err => rfl
  | ok both => exact templates _ _ rfl both

/-- A template that is not found could not be loaded. -/
theorem load_of_fetch_error {err : RenderError} (h : (e.fetch files name cache).1 = .error err) :
    e.load files name = .error err := by
  unfold Engine.fetch at h
  split at h
  · split at h
    · cases h
    · split at h
      · cases h
      · rename_i failure
        cases h
        exact failure
  · exact h

end Engine

end SlotTemplate

import SlotTemplate.Proofs.Rendering.Caching
import SlotTemplate.Proofs.Rendering.Concatenation
import SlotTemplate.Proofs.Rendering.Likeness
import SlotTemplate.Proofs.Tree.Expansion

/-!
# Templates that expand to the same

Without the `length` filter, a template cannot tell whether an invocation of it was written inline
or as a block without content, and neither can the templates that it hands its slots on to.

* `Lockstep.agree_expand`: nodes that expand to the same agree in scopes with alike values;
* `Engine.Interchanged`: engines that find templates that expand to the same;
* `Engine.Interchanged.renderTemplate_eq`, `Engine.Interchanged.render_eq`: they render alike.
-/

namespace SlotTemplate

open Rendering

/-- No expression of a node uses the `length` filter. -/
def Node.Lengthless (node : Node) : Prop := ∀ e ∈ node.exprs, ∀ f ∈ e.filters, f.kind ≠ .length

/-- No expression of a template uses the `length` filter. -/
def Template.Lengthless (t : Template) : Prop := ∀ n ∈ t.nodes, n.Everywhere Node.Lengthless

instance (k : FilterKind) : Decidable (k = .length) :=
  match k with
  | .length => isTrue rfl
  | .default _ | .upper | .lower | .title | .safe | .escape => isFalse (by simp)

instance : DecidablePred Node.Lengthless := fun node =>
  inferInstanceAs (Decidable (∀ e ∈ node.exprs, ∀ f ∈ e.filters, f.kind ≠ .length))

instance : DecidablePred Template.Lengthless := fun t =>
  inferInstanceAs (Decidable (∀ n ∈ t.nodes, n.Everywhere Node.Lengthless))

/-- A node uses no `length` filter and invokes only components in play. -/
structure Node.Simple (K : Component → Prop) (node : Node) : Prop where
  lengthless : node.Lengthless
  component : ∀ c ∈ node.component?, K c

/-- A template is simple at every node. -/
def Template.Simple (K : Component → Prop) (t : Template) : Prop :=
  ∀ n ∈ t.nodes, n.Everywhere (Node.Simple K)

theorem Template.Lengthless.simple {t : Template} {K : Component → Prop} (h : t.Lengthless)
    (compiled : t.CompiledWith K) : t.Simple K :=
  fun n hn => ((h n hn).and (compiled.invokes n hn)).mono fun _ h => ⟨h.1, h.2⟩

/-! ## Trees -/

namespace Lockstep

/-- Components with a property are invoked alike, with alike arguments and slots with the same
texts. -/
def InvokesAlike (L : Lockstep) (K : Component → Prop) (invoke invoke' : Invoke) : Prop :=
  ∀ c, K c → ∀ (slots slots' : SlotMap) (args args' : Data), slots.get = slots'.get →
    Dict.Beside Value.Alike args.entries args'.entries →
    ∀ s s' before, L.Agree s s' before (invoke c slots args) (invoke' c slots' args') Eq

section

variable {L : Lockstep} {s s' : Scope} {before : String} {autoescape : Bool}
  {invoke invoke' : Invoke}

theorem eval_of_same {e e' : Expr} (same : e.relocate .erased = e'.relocate .erased) (s : Scope) :
    e.eval s = e'.eval s := by
  rw [← Expr.eval_relocate .erased e, same, Expr.eval_relocate]

theorem agree_eval {e e' : Expr} (lengthless : ∀ f ∈ e.filters, f.kind ≠ .length)
    (same : e.relocate .erased = e'.relocate .erased) (scopes : s.Alike s') :
    L.Agree s s' before (eval e) (eval e') Value.Alike := by
  intro p q states
  have alike : (e.eval p.scope).Alike (e'.eval q.scope) := by
    rw [states.left, states.right, ← eval_of_same same s']
    exact Expr.eval_alike scopes lengthless
  exact .ok alike states

theorem eval_arguments {args args' : List Argument}
    (lengthless : ∀ a ∈ args, ∀ f ∈ a.value.filters, f.kind ≠ .length)
    (same : args.map (·.relocate .erased) = args'.map (·.relocate .erased)) (scopes : s.Alike s') :
    Dict.Beside Value.Alike (args.map fun a => (a.name, a.value.eval s))
      (args'.map fun a => (a.name, a.value.eval s')) := by
  induction args generalizing args' with
  | nil =>
    cases args' with
    | nil => exact .nil
    | cons => cases same
  | cons a args ih =>
    cases args' with
    | nil => cases same
    | cons a' args' =>
      obtain ⟨here, there⟩ := List.forall_mem_cons.1 lengthless
      obtain ⟨one, others⟩ := List.cons.inj same
      obtain ⟨name, value, -⟩ := Argument.mk.inj one
      rw [List.map_cons, List.map_cons, name, ← eval_of_same value s']
      exact .cons (Expr.eval_alike scopes here) (ih there others)

theorem agree_renderAll_expand {ns ns' : List Node} (same : expandAll ns = expandAll ns')
    (h : ∀ n ∈ ns, ∀ n' : Node, n.expand = n'.expand →
      L.Agree s s' before (n.render autoescape invoke) (n'.render autoescape invoke') Eq) :
    L.Agree s s' before (renderAll autoescape invoke ns) (renderAll autoescape invoke' ns') Eq := by
  induction ns generalizing ns' with
  | nil =>
    cases ns' with
    | nil => exact .pure rfl
    | cons => cases same
  | cons n ns ih =>
    cases ns' with
    | nil => cases same
    | cons n' ns' =>
      obtain ⟨here, there⟩ := List.forall_mem_cons.1 h
      obtain ⟨one, others⟩ := List.cons.inj same
      exact .bind (here n' one) fun _ _ _ => ih others there

/-- Slots that expand to the same render to the same texts. -/
theorem agree_renderSlots_expand {slots slots' : List Slot}
    (same : expandSlots slots = expandSlots slots')
    (h : ∀ slot ∈ slots, ∀ ns', expandAll slot.content = expandAll ns' →
      L.Agree s s' "" (renderAll autoescape invoke slot.content)
        (renderAll autoescape invoke' ns') Eq) {filled filled' : SlotMap}
    (texts : filled.get = filled'.get) :
    L.Agree s s' before (renderSlots autoescape invoke slots filled)
      (renderSlots autoescape invoke' slots' filled') fun f f' => f.get = f'.get := by
  induction slots generalizing slots' filled filled' with
  | nil =>
    rcases slots' with _ | ⟨⟨name', content'⟩, slots'⟩
    · exact .pure texts
    · cases same
  | cons slot slots ih =>
    obtain ⟨name, content⟩ := slot
    rcases slots' with _ | ⟨⟨name', content'⟩, slots'⟩
    · cases same
    · obtain ⟨here, there⟩ := List.forall_mem_cons.1 h
      simp only [expandSlots, List.cons.injEq, Slot.mk.injEq] at same
      obtain ⟨⟨rfl, one⟩, others⟩ := same
      have rendered : L.Agree s s' before (Slot.render autoescape invoke ⟨name, content⟩)
          (Slot.render autoescape invoke' ⟨name, content'⟩) Eq :=
        .bind (.capture (here content' one)) fun text text' same => .pure (by rw [same])
      refine .bind rendered ?_
      rintro r _ rfl
      refine ih others there (funext fun other => ?_)
      rw [SlotMap.get_insert, SlotMap.get_insert, texts]

theorem renderSlots_blank :
    renderSlots autoescape invoke [⟨defaultSlot, []⟩] SlotMap.empty =
      pure (SlotMap.empty.insert defaultSlot "") := by
  funext p
  rfl

theorem get_blank : (SlotMap.empty.insert defaultSlot "").get = SlotMap.empty.get := by
  funext name
  rw [SlotMap.get_insert]
  split <;> rfl

/-- No slot and an empty default slot have the same texts. -/
theorem agree_renderSlots_blocks {slots slots' : List Slot}
    (same : blockSlots (expandSlots slots) = blockSlots (expandSlots slots'))
    (h : ∀ slot ∈ slots, ∀ ns', expandAll slot.content = expandAll ns' →
      L.Agree s s' "" (renderAll autoescape invoke slot.content)
        (renderAll autoescape invoke' ns') Eq) :
    L.Agree s s' before (renderSlots autoescape invoke slots SlotMap.empty)
      (renderSlots autoescape invoke' slots' SlotMap.empty) fun f f' => f.get = f'.get := by
  have blank {slots : List Slot} (e : expandSlots slots = [⟨defaultSlot, []⟩]) :
      slots = [⟨defaultSlot, []⟩] := by
    rw [expandSlots_eq_map, List.map_eq_singleton_iff] at e
    obtain ⟨⟨name, content⟩, rfl, e⟩ := e
    cases content with
    | nil => exact congrArg (fun name => [(⟨name, []⟩ : Slot)]) (congrArg Slot.name e)
    | cons => cases congrArg Slot.content e
  rcases slots with _ | ⟨⟨name, content⟩, slots⟩ <;>
    rcases slots' with _ | ⟨⟨name', content'⟩, slots'⟩
  · exact .pure rfl
  · rw [blank same.symm, renderSlots_blank]
    exact .pure get_blank.symm
  · rw [blank same, renderSlots_blank]
    exact .pure get_blank
  · exact agree_renderSlots_expand same h rfl

end

/-- Nodes that expand to the same agree in scopes with alike values, if the first one is simple. -/
theorem agree_expand {L : Lockstep} {K : Component → Prop} {autoescape : Bool}
    {invoke invoke' : Invoke} (hi : L.InvokesAlike K invoke invoke') {n n' : Node}
    (simple : n.Everywhere (Node.Simple K)) (same : n.expand = n'.expand) {s s' : Scope}
    (scopes : s.Alike s') (before : String) :
    L.Agree s s' before (n.render autoescape invoke) (n'.render autoescape invoke') Eq := by
  induction simple generalizing n' s s' before with
  | @intro node here _ ih =>
    -- the list of nodes below this one that is rendered next
    have inside {ns ns' : List Node} (below : ∀ n ∈ ns, n ∈ node.children)
        (same : expandAll ns = expandAll ns') {s s' : Scope} (scopes : s.Alike s')
        (before : String) :
        L.Agree s s' before (renderAll autoescape invoke ns) (renderAll autoescape invoke' ns')
          Eq :=
      agree_renderAll_expand same fun n hn n' e => ih n (below n hn) e scopes before
    cases node with
    | text t =>
      cases n' with
      | text t' =>
        cases same
        rw [Node.render, Node.render]
        exact .write t
      | _ => cases same
    | «variable» e =>
      cases n' with
      | «variable» e' =>
        simp only [Node.expand, Node.variable.injEq] at same
        rw [Node.render, Node.render]
        refine .bind (agree_eval (here.lengthless e (by simp [Node.exprs])) same scopes) ?_
        intro v v' alike
        rw [alike.render_eq]
        exact .write _
      | _ => cases same
    | conditional negated e a b =>
      cases n' with
      | conditional negated' e' a' b' =>
        simp only [Node.expand, Node.conditional.injEq] at same
        obtain ⟨rfl, condition, first, second⟩ := same
        rw [Node.render, Node.render]
        refine .bind (agree_eval (here.lengthless e (by simp [Node.exprs])) condition scopes) ?_
        intro v v' alike
        rw [alike.isTruthy_eq]
        split
        · exact inside (fun n hn => List.mem_append_left _ hn) first scopes before
        · exact inside (fun n hn => List.mem_append_right _ hn) second scopes before
      | _ => cases same
    | loop name e body instead =>
      cases n' with
      | loop name' e' body' instead' =>
        simp only [Node.expand, Node.loop.injEq] at same
        obtain ⟨rfl, iterable, first, second⟩ := same
        rw [Node.render, Node.render]
        refine .bind (agree_eval (here.lengthless e (by simp [Node.exprs])) iterable scopes) ?_
        intro v v' alike
        rw [alike.items_eq]
        dsimp only
        split
        · exact inside (fun n hn => List.mem_append_right _ hn) second scopes before
        · refine .forItems (fun index item => ?_) 0 v'.items
          exact inside (fun n hn => List.mem_append_left _ hn) first (scopes.push _) before
      | _ => cases same
    | invocation c tag args slots span =>
      cases n' with
      | invocation c' tag' args' slots' span' =>
        simp only [Node.expand, Node.invocation.injEq, true_and] at same
        obtain ⟨rfl, arguments, contents, -⟩ := same
        rw [Node.render, Node.render]
        refine .bind (agree_renderSlots_blocks contents fun slot hs ns' e => ?_) ?_
        · exact inside (fun n hn => List.mem_flatMap.2 ⟨slot, hs, hn⟩) e scopes ""
        intro filled filled' texts
        refine .get_bind fun p q states => ?_
        dsimp only
        rw [states.left, states.right]
        refine hi c (here.component c rfl) _ _ _ _ texts (.insertAll .nil ?_) s s' before
        exact eval_arguments (fun a ha => here.lengthless a.value (List.mem_map_of_mem ha))
          arguments scopes
      | _ => cases same
    | marker name content span line =>
      cases n' with
      | marker name' content' span' line' =>
        simp only [Node.expand, Node.marker.injEq] at same
        obtain ⟨rfl, contents, -, -⟩ := same
        rw [Node.render, Node.render]
        refine .get_bind fun p q states => ?_
        rw [states.left, states.right, scopes.filledSlot?_eq]
        split
        · exact .write _
        · exact inside (fun n hn => hn) contents scopes before
      | _ => cases same
    | slotOutput name =>
      cases n' with
      | slotOutput name' =>
        cases same
        rw [Node.render, Node.render]
        refine .get_bind fun p q states => ?_
        rw [states.left, states.right, scopes.filledSlot?_eq]
        exact .write _
      | _ => cases same
    | empty =>
      cases n' with
      | empty =>
        rw [Node.render, Node.render]
        exact .pure rfl
      | _ => cases same

end Lockstep

/-! ## Engines -/

/-- Templates with the same name whose nodes expand to the same. -/
structure Template.Alike (t t' : Template) : Prop where
  name : t.name = t'.name
  nodes : expandAll t.nodes = expandAll t'.nodes

/-- Caches that hold alike templates under the same names. -/
def Cache.Alike (cache cache' : Cache) : Prop :=
  ∀ name, Option.Rel Template.Alike (cache.get? name) (cache'.get? name)

theorem Cache.Alike.refl (cache : Cache) : cache.Alike cache := by
  intro name
  cases cache.get? name with
  | none => exact .none
  | some t => exact .some ⟨rfl, rfl⟩

namespace Engine

/-- What is found under a name uses no `length` filter, and if it was compiled before, then by an
engine with the components in play. -/
structure Spares (e : Engine) (files : Files) (K : Component → Prop) (name : String) : Prop where
  loaded : ∀ t, e.load files name = .ok t → t.Lengthless
  cached : ∀ t, e.cache.get? name = some t → t.CompiledWith K ∧ t.Lengthless

/-- The components in play hand over their arguments, and none of their templates uses the `length`
filter. -/
structure Plain (e : Engine) (files : Files) (K : Component → Prop) : Prop where
  components : e.AllComponents K
  handsOver : ∀ c, K c → c.HandsOver
  templates : ∀ c, K c → e.Spares files K (c.templateName e.config.extension)

/-- Two engines have the same settings and load alike templates. -/
structure Interchanged (e e' : Engine) (files : Files) : Prop where
  config : e'.config = e.config
  loads : ∀ name, SameOutcome Template.Alike (e.load files name) (e'.load files name)

/-- Renderings with caches that hold alike templates, in the first one what an engine provides. -/
def interchange (e : Engine) (files : Files) : Lockstep :=
  ⟨fun _ => False, fun _ => True, fun cache cache' =>
    cache.Alike cache' ∧ cache.Holds (e.Provides files)⟩

variable {e e' : Engine} {files : Files} {K : Component → Prop} {name : String} {t t' : Template}

theorem Plain.spared (h : e.Plain files K) (spares : e.Spares files K name)
    (provided : e.Provides files name t) : t.CompiledWith K ∧ t.Lengthless := by
  rcases provided with cached | loaded
  · exact spares.cached t cached
  · obtain ⟨source, -, compiled⟩ := load_eq_ok_iff.1 loaded
    exact ⟨⟨e, name, source, h.components, compiled⟩, spares.loaded t loaded⟩

theorem Plain.simple (h : e.Plain files K) (spares : e.Spares files K name)
    (provided : e.Provides files name t) : t.Simple K := by
  obtain ⟨compiled, lengthless⟩ := h.spared spares provided
  exact lengthless.simple compiled

/-- An engine stays plain with the templates that it has compiled meanwhile. -/
theorem Plain.withCache (h : e.Plain files K) {cache : Cache}
    (kept : cache.Holds (e.Provides files)) : ({ e with cache } : Engine).Plain files K := by
  refine ⟨⟨h.components.builtins, h.components.libraries⟩, h.handsOver, fun c hc => ?_⟩
  have spares := h.templates c hc
  exact ⟨spares.loaded, fun t found => h.spared spares (kept _ t found)⟩

namespace Interchanged

theorem fetch_alike (h : e.Interchanged e' files) {cache cache' : Cache}
    (caches : cache.Alike cache') (name : String) :
    SameOutcome Template.Alike (e.fetch files name cache).1 (e'.fetch files name cache').1 ∧
      Cache.Alike (e.fetch files name cache).2 (e'.fetch files name cache').2 :=
  fetch_sameOutcome (congrArg EngineConfig.cacheTemplates h.config) h.loads caches name

theorem agree_getTemplate (h : e.Interchanged e' files) (name : String) (s s' : Scope)
    (before : String) :
    (e.interchange files).Agree s s' before (e.getTemplate files name) (e'.getTemplate files name)
      fun t t' => t.Alike t' ∧ e.Provides files name t := by
  refine Lockstep.agree_getTemplate_of_outcomes ?_ s s' before
  rintro cache cache' ⟨alike, holds⟩
  obtain ⟨same, caches⟩ := h.fetch_alike alike name
  obtain ⟨provides, kept⟩ := fetch_keeps (fun _ _ => .inr) holds name
  exact ⟨same.and_left provides, ⟨caches, kept⟩, fun _ _ => trivial⟩

/-- Components are invoked alike, if alike templates are rendered alike. -/
theorem invokesAlike (h : e.Interchanged e' files) (plain : e.Plain files K)
    {nested nested' : Template → Data → Rendering String}
    (render : ∀ (t t' : Template) (data data' : Data), t.Simple K → t.Alike t' →
      Dict.Beside Value.Alike data.entries data'.entries → ∀ s s' before,
      (e.interchange files).Agree s s' before (nested t data) (nested' t' data') Eq) :
    (e.interchange files).InvokesAlike K (e.invoke files nested) (e'.invoke files nested') := by
  intro c hc slots slots' args args' texts arguments s s' before
  have made := Component.context_alike (plain.handsOver c hc) texts arguments
  rw [Engine.invoke, Engine.invoke, h.config]
  generalize c.context slots args = x, c.context slots' args' = y at made
  cases made with
  | error cause => exact .throw trivial
  | ok data =>
    refine .bind (h.agree_getTemplate _ s s' before) ?_
    rintro t t' ⟨alike, provided⟩
    have simple := plain.simple (plain.templates c hc) provided
    refine .bind (render t t' _ _ simple alike data s s' before) ?_
    rintro text _ rfl
    exact .write text

/-- At every depth, alike templates are rendered alike. -/
theorem agree_renderLevels (h : e.Interchanged e' files) (plain : e.Plain files K) (levels : Nat)
    {data data' : Data} (simple : t.Simple K) (alike : t.Alike t')
    (values : Dict.Beside Value.Alike data.entries data'.entries) (s s' : Scope) (before : String) :
    (e.interchange files).Agree s s' before (e.renderLevels files levels t data)
      (e'.renderLevels files levels t' data') Eq := by
  induction levels generalizing t t' data data' s s' before with
  | zero =>
    rw [Engine.renderLevels, Engine.renderLevels, h.config, alike.name]
    exact .throw trivial
  | succ levels ih =>
    rw [Engine.renderLevels, Engine.renderLevels, h.config]
    have invoked := h.invokesAlike plain fun t t' data data' => ih
    exact .isolate (Lockstep.agree_renderAll_expand alike.nodes fun n hn n' same =>
      Lockstep.agree_expand invoked (simple n hn) same (.ofData values) "")

/-- Alike templates are rendered alike. -/
theorem renderTemplate_eq (h : e.Interchanged e' files) (plain : e.Plain files K)
    (caches : Cache.Alike e.cache e'.cache) (simple : t.Simple K) (alike : t.Alike t')
    (data : Data) : (e.renderTemplate files t data).1 = (e'.renderTemplate files t' data).1 := by
  have agree := h.agree_renderLevels plain (e.config.maxDepth + 1) simple alike
    (.refl .same data.entries) .empty .empty ""
  have depth : e.config.maxDepth = e'.config.maxDepth := by rw [h.config]
  have both : (e.interchange files).caches e.cache e'.cache := ⟨caches, fun _ _ => .inl⟩
  exact Lockstep.renderTemplate_eq_of_agree (fun _ => id) depth both agree

/-- So are templates by name. -/
theorem render_eq (h : e.Interchanged e' files) (plain : e.Plain files K)
    (caches : Cache.Alike e.cache e'.cache) (spares : e.Spares files K name) (data : Data) :
    (e.render files name data).1 = (e'.render files name data).1 := by
  obtain ⟨same, alike⟩ := h.fetch_alike caches name
  have own : Cache.Holds (e.Provides files) e.cache := fun _ _ => .inl
  obtain ⟨provides, kept⟩ := fetch_keeps (fun _ _ => .inr) own name
  refine render_eq_of_outcomes same fun t t' found both => ?_
  have next : ({ e with cache := (e.fetch files name e.cache).2 } : Engine).Interchanged
      { e' with cache := (e'.fetch files name e'.cache).2 } files := ⟨h.config, h.loads⟩
  exact next.renderTemplate_eq (plain.withCache kept) alike
    (plain.simple spares (provides t found)) both data

/-- So are sources that compile to alike templates. -/
theorem renderSource_eq (h : e.Interchanged e' files) (plain : e.Plain files K)
    (caches : Cache.Alike e.cache e'.cache) {source source' : String}
    (compiled : e.compileNamed unnamed source = .ok t)
    (compiled' : e'.compileNamed unnamed source' = .ok t') (alike : t.Alike t')
    (lengthless : t.Lengthless) (data : Data) :
    (e.renderSource files source data).1 = (e'.renderSource files source' data).1 := by
  have simple := lengthless.simple ⟨e, unnamed, source, plain.components, compiled⟩
  rw [renderSource, renderSource, compiled, compiled']
  exact h.renderTemplate_eq plain caches simple alike data

end Interchanged

end Engine

end SlotTemplate

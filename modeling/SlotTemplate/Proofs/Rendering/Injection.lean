import SlotTemplate.Component.Stock
import SlotTemplate.Proofs.Components
import SlotTemplate.Proofs.Rendering
import SlotTemplate.Proofs.Rendering.Clean

/-!
# No markup comes from data

Where components pass their arguments through and no template marks anything as safe, all markup of a
rendering is written in the templates themselves. Rendered slots are inserted without escaping; they
have no markup because they were rendered that way.

* `Node.Everywhere.keeps`: rendering a harmless node keeps a state clean;
* `Engine.renderTemplate_bare`: a rendering whose templates have no markup has none itself.
-/

namespace SlotTemplate

open Text Rendering

/-- A component hands its arguments to its template, and nothing in its defaults is safe. -/
structure Component.PassesThrough (c : Component) : Prop where
  produce : ∀ slots args, c.produce slots args = .ok args
  defaults : ∀ p ∈ c.signature.params, ∀ v, p.default? = some v → v.Plain

/-- The text that a node writes whatever the data are. -/
def Node.fixedText : Node → String
  | .text s => s
  | _ => ""

/-- Nothing is marked as safe in a node, and it is no text with markup. -/
structure Node.Quiet (node : Node) : Prop where
  filters : ∀ e ∈ node.exprs, ∀ f ∈ e.filters, f.kind ≠ .safe
  text : Text.Bare node.fixedText.toList

/-- A template is quiet at every node. -/
def Template.Quiet (t : Template) : Prop := ∀ n ∈ t.nodes, n.Everywhere Node.Quiet

instance (k : FilterKind) : Decidable (k = .safe) :=
  match k with
  | .safe => isTrue rfl
  | .default _ | .upper | .lower | .title | .length | .escape => isFalse (by simp)

instance : DecidablePred Node.Quiet := fun node =>
  decidable_of_iff ((∀ e ∈ node.exprs, ∀ f ∈ e.filters, f.kind ≠ .safe) ∧
    Text.Bare node.fixedText.toList) ⟨fun h => ⟨h.1, h.2⟩, fun h => ⟨h.filters, h.text⟩⟩

instance : DecidablePred Template.Quiet := fun t =>
  inferInstanceAs (Decidable (∀ n ∈ t.nodes, n.Everywhere Node.Quiet))

/-- An engine escapes, the components in play pass their arguments through, and the templates of
these components are quiet, those that are loaded as well as those that were compiled before. -/
structure Engine.Confines (e : Engine) (files : Files) (K : Component → Prop) : Prop where
  autoescape : e.config.autoescape = true
  components : e.AllComponents K
  passThrough : ∀ c, K c → c.PassesThrough
  loaded : ∀ c, K c → ∀ t, e.load files (c.templateName e.config.extension) = .ok t → t.Quiet
  cached : ∀ c, K c → ∀ t, e.cache.get? (c.templateName e.config.extension) = some t →
    t.CompiledWith K ∧ t.Quiet

/-! ## Compiled templates -/

/-- A node evaluates guarded expressions only, is no text with markup and invokes no component but
those in play. -/
structure Node.Harmless (K : Component → Prop) (node : Node) : Prop where
  exprs : ∀ e ∈ node.exprs, e.Guarded
  text : Text.Bare node.fixedText.toList
  component : ∀ c name args slots span, node = .invocation c name args slots span → K c

theorem Grammar.PrimaryForm.plain (p : PrimaryForm) : p.tree.Plain := by
  have leaf {v : Value} (here : v.isSafe = false) (alone : v.members = []) : v.Plain :=
    .intro here (by simp [alone])
  intro v hv
  unfold PrimaryForm.tree at hv
  split at hv <;> cases hv <;> exact leaf rfl rfl

theorem Expr.Sound.guarded {source : List Char} {e : Expr} (h : e.Sound source)
    (noSafe : ∀ f ∈ e.filters, f.kind ≠ .safe) : e.Guarded := by
  obtain ⟨primary, arguments⟩ := h.primaries Grammar.PrimaryForm.plain
  exact ⟨primary, fun f hf => ⟨noSafe f hf, arguments f hf⟩⟩

/-- A quiet template is harmless at every node, since its literals come from a source. -/
theorem Template.CompiledWith.harmless {K : Component → Prop} {t : Template} (h : t.CompiledWith K)
    (quiet : t.Quiet) : ∀ n ∈ t.nodes, n.Everywhere (Node.Harmless K) := by
  have invokes := h.invokes
  obtain ⟨e, name, source, -, compiled⟩ := h
  obtain ⟨d, tags, lexemes, derives⟩ := Engine.derives_of_compileNamed compiled
  intro n hn
  refine (((derives.sound lexemes n hn).and (quiet n hn)).and (invokes n hn)).mono
    fun n h => ⟨?_, h.1.2.text, ?_⟩
  · exact fun e he => (h.1.1.exprs e he).guarded (h.1.2.filters e he)
  · rintro c name args slots span rfl
    exact h.2 c rfl

/-! ## Rendering -/

section

variable {e : Engine} {files : Files} {K : Component → Prop}

/-- A state of rendering with clean variables and no markup written, and with no templates but those
that the engine provides. -/
structure Pass.Clean (e : Engine) (files : Files) (p : Pass) : Prop where
  scope : p.scope.Clean
  out : Text.Bare p.out.toList
  cache : p.cache.Holds (e.Provides files)

theorem Engine.Confines.harmless (h : e.Confines files K) {c : Component} (hc : K c) {t : Template}
    (provided : e.Provides files (c.templateName e.config.extension) t) :
    ∀ n ∈ t.nodes, n.Everywhere (Node.Harmless K) := by
  rcases provided with cached | loaded
  · obtain ⟨compiled, quiet⟩ := h.cached c hc t cached
    exact compiled.harmless quiet
  · refine Template.CompiledWith.harmless ?_ (h.loaded c hc t loaded)
    rw [Engine.load] at loaded
    split at loaded
    · cases loaded
    · exact ⟨e, _, _, h.components, mapError_eq_ok_iff.1 loaded⟩

theorem Component.PassesThrough.context_clean {c : Component} (h : c.PassesThrough)
    {slots : SlotMap} {args data : Data} (hs : slots.Bare) (ha : args.All Value.Clean)
    (made : c.context slots args = .ok data) : data.All Value.Clean :=
  Component.HandsOver.context_all h.produce (fun p hp v hv => (h.defaults p hp v hv).clean)
    (.safe (hs defaultSlot)) (.leaf hs rfl) ha made

namespace Rendering

theorem keeps_getTemplate (name : String) :
    Keeps (Pass.Clean e files) (e.getTemplate files name) (e.Provides files name) := by
  intro p hp
  obtain ⟨result, cache⟩ := Engine.fetch_keeps (fun _ _ => .inr) hp.cache name
  exact ⟨⟨hp.scope, hp.out, cache⟩, result⟩

theorem keeps_write {text : String} (h : Text.Bare text.toList) :
    Keeps (Pass.Clean e files) (write text) fun _ => True :=
  Keeps.write fun p hp => ⟨hp.scope, by simpa using hp.out.append h, hp.cache⟩

theorem keeps_eval {x : Expr} (h : x.Guarded) :
    Keeps (Pass.Clean e files) (eval x) Value.Clean :=
  Keeps.eval fun _ hp => Expr.eval_clean h hp.scope

theorem keeps_pop (p : Pass) (hp : p.Clean e files) :
    Pass.Clean e files { p with scope := p.scope.pop } :=
  ⟨hp.scope.pop, hp.out, hp.cache⟩

theorem loopFrame_clean {name : String} {index total : Nat} {item : Value} (h : item.Clean) :
    (loopFrame name index total item).All Value.Clean := by
  refine (Dict.All.ofList (List.forall_mem_singleton.2 (.intro trivial ?_))).insert h
  refine Dict.All.ofList fun p hp => ?_
  simp only [List.mem_cons, List.not_mem_nil, or_false] at hp
  rcases hp with rfl | rfl | rfl | rfl <;> exact Value.Clean.leaf trivial rfl

theorem filledSlot?_bare {scope : Scope} (hs : scope.Clean) {name text : String}
    (found : filledSlot? scope name = some text) : Text.Bare text.toList := by
  unfold filledSlot? at found
  split at found
  · rename_i slots bound
    split at found
    · cases found
      exact (hs.get? bound).here name
    · cases found
  · cases found

theorem keeps_capture {body : Rendering Unit} (h : Keeps (Pass.Clean e files) body fun _ => True) :
    Keeps (Pass.Clean e files) (capture body) fun text => Text.Bare text.toList := by
  refine (Keeps.capture (fun p hp => ⟨hp.scope, bare_nil, hp.cache⟩)
    (fun p q hp hq => ⟨hq.scope, hp.out, hq.cache⟩) h).mono ?_
  rintro _ ⟨q, hq, rfl⟩
  exact hq.out

/-- How a component is rendered keeps a state clean, if its slots and arguments are. -/
def SafeInvoke (e : Engine) (files : Files) (K : Component → Prop) (invoke : Invoke) : Prop :=
  ∀ c slots args, K c → slots.Bare → args.All Value.Clean →
    Keeps (Pass.Clean e files) (invoke c slots args) fun _ => True

/-- Rendering a harmless node keeps a state clean. -/
theorem keeps_render {invoke : Invoke} (safe : SafeInvoke e files K invoke) {n : Node}
    (h : n.Everywhere (Node.Harmless K)) :
    Keeps (Pass.Clean e files) (n.render true invoke) fun _ => True := by
  induction h with
  | @intro node here _ ih =>
    cases node with
    | text s =>
      rw [Node.render]
      exact keeps_write here.text
    | «variable» x =>
      rw [Node.render]
      exact Keeps.bind (keeps_eval (here.exprs x (by simp [Node.exprs]))) fun v hv =>
        keeps_write hv.render
    | conditional negated x thenBranch elseBranch =>
      rw [Node.render]
      refine Keeps.bind (keeps_eval (here.exprs x (by simp [Node.exprs]))) fun v _ => ?_
      split
      · exact Keeps.renderAll fun n hn => ih n (List.mem_append_left _ hn)
      · exact Keeps.renderAll fun n hn => ih n (List.mem_append_right _ hn)
    | loop name x body instead =>
      rw [Node.render]
      refine Keeps.bind (keeps_eval (here.exprs x (by simp [Node.exprs]))) fun v hv => ?_
      dsimp only
      split
      · exact Keeps.renderAll fun n hn => ih n (List.mem_append_right _ hn)
      · refine Keeps.forItems (fun p index item hi hp => ?_) keeps_pop
          (Keeps.renderAll fun n hn => ih n (List.mem_append_left _ hn))
        exact ⟨hp.scope.push (loopFrame_clean (hv.items item hi)), hp.out, hp.cache⟩
    | invocation c name args slots span =>
      rw [Node.render]
      refine Keeps.bind (Keeps.renderSlots (fun _ name _ hf ht => hf.insert ht name)
        (fun slot hs => keeps_capture (Keeps.renderAll fun n hn =>
          ih n (List.mem_flatMap.2 ⟨slot, hs, hn⟩))) SlotMap.Bare.empty) fun filled hf => ?_
      refine Keeps.get_bind fun p hp => ?_
      refine safe c filled _ (here.component c name args slots span rfl) hf ?_
      refine Dict.All.ofList fun arg harg => ?_
      obtain ⟨a, ha, rfl⟩ := List.mem_map.1 harg
      exact Expr.eval_clean (here.exprs a.value (List.mem_map_of_mem ha)) hp.scope
    | marker name content span line =>
      rw [Node.render]
      refine Keeps.get_bind fun p hp => ?_
      split
      · rename_i text found
        exact keeps_write (filledSlot?_bare hp.scope found)
      · exact Keeps.renderAll ih
    | slotOutput name =>
      rw [Node.render]
      refine Keeps.get_bind fun p hp => keeps_write ?_
      cases found : filledSlot? p.scope name with
      | none => exact bare_nil
      | some text => exact filledSlot?_bare hp.scope found
    | empty => exact Keeps.pure trivial

theorem safeInvoke (h : e.Confines files K) {nested : Template → Data → Rendering String}
    (hn : ∀ t data, (∀ n ∈ t.nodes, n.Everywhere (Node.Harmless K)) → data.All Value.Clean →
      Keeps (Pass.Clean e files) (nested t data) fun text => Text.Bare text.toList) :
    SafeInvoke e files K (e.invoke files nested) := by
  intro c slots args hc hs ha
  rw [Engine.invoke]
  split
  · exact Keeps.throw
  · rename_i data made
    refine Keeps.bind (keeps_getTemplate _) fun t provided => ?_
    exact Keeps.bind (hn t data (h.harmless hc provided)
      ((h.passThrough c hc).context_clean hs ha made)) fun text ht => keeps_write ht

/-- At every depth, a harmless template renders to a text without markup. -/
theorem keeps_renderLevels (h : e.Confines files K) (levels : Nat) {t : Template} {data : Data}
    (ht : ∀ n ∈ t.nodes, n.Everywhere (Node.Harmless K)) (hd : data.All Value.Clean) :
    Keeps (Pass.Clean e files) (e.renderLevels files levels t data)
      fun text => Text.Bare text.toList := by
  induction levels generalizing t data with
  | zero => exact Keeps.throw
  | succ levels ih =>
    rw [Engine.renderLevels, h.autoescape]
    refine (Keeps.isolate (fun p hp => ⟨List.forall_mem_singleton.2 hd, bare_nil, hp.cache⟩)
      (fun p q hp hq => ⟨hp.scope, hp.out, hq.cache⟩) (Keeps.renderAll fun n hn =>
        keeps_render (safeInvoke h fun _ _ => ih) (ht n hn))).mono ?_
    rintro _ ⟨q, hq, rfl⟩
    exact hq.out

end Rendering

/-- A rendering of quiet templates has no markup, whatever the data are. -/
theorem Engine.renderTemplate_bare (h : e.Confines files K) {t : Template}
    (compiled : t.CompiledWith K) (quiet : t.Quiet) {data : Data} (plain : data.All Value.Plain)
    {out : String} (success : (e.renderTemplate files t data).1 = .ok out) :
    Text.Bare out.toList := by
  have start : Pass.Clean e files ⟨.empty, "", e.cache⟩ :=
    ⟨List.forall_mem_singleton.2 Dict.all_empty, bare_nil, fun _ _ => .inl⟩
  have rendered := keeps_renderLevels h (e.config.maxDepth + 1) (compiled.harmless quiet)
    fun v hv => (plain v hv).clean
  exact (rendered _ start).2 out success

end

theorem Engine.renderTemplate_bare_card :
    let card := Component.named "card"
    let e := (Engine.default.addBuiltins (Library.empty.component card)).addTemplate
      "components/card.html" "({{ title|upper }}: {{ slot }})"
    let files := Files.inDirectory []
    let source := "{% card title=x %}{{ x }}!{% /card %}"
    let data := Dict.ofList [("x", Value.string "<b>")]
    ∃ t out, e.compileNamed "page" source = .ok t ∧
      (e.renderTemplate files t data).1 = .ok out ∧ Text.Bare out.toList := by
  intro card e files source data
  obtain ⟨t, compiled⟩ : ∃ t, e.compileNamed "page" source = .ok t := exists_eq_ok (by decide +kernel)
  have quiet : ∀ t, e.compileNamed "page" source = .ok t → t.Quiet := by decide +kernel
  have loaded : ∀ t, e.load files "components/card.html" = .ok t → t.Quiet := by decide +kernel
  have renders : ∀ t, e.compileNamed "page" source = .ok t →
      (e.renderTemplate files t data).1.isOk = true := by decide +kernel
  have tags : (Library.empty.component card).tags.All fun b => ∀ c ∈ b.components, c = card :=
    (Dict.all_empty.insert (by simp [Binding.components])).insert (by simp [Binding.components])
  have components : e.AllComponents (· = card) := by
    refine ⟨Dict.All.insertAll ?_ fun p hp => tags p.2 (List.mem_map_of_mem hp), Dict.all_empty⟩
    refine ((((Dict.all_empty.insert ?_).insert ?_).insert ?_).insert ?_).insert ?_ <;>
      simp [Binding.components]
  have confines : e.Confines files (· = card) := by
    refine ⟨rfl, components, ?_, ?_, ?_⟩
    · rintro _ rfl
      exact ⟨fun _ _ => rfl, List.forall_mem_nil _⟩
    · rintro _ rfl
      exact loaded
    · rintro _ - t ⟨⟩
  obtain ⟨out, success⟩ := exists_eq_ok (renders t compiled)
  refine ⟨t, out, compiled, success, Engine.renderTemplate_bare confines ?_ (quiet t compiled) ?_ success⟩
  · exact ⟨e, "page", source, components, compiled⟩
  · exact Dict.All.ofList (List.forall_mem_singleton.2 (.intro rfl (List.forall_mem_nil _)))

end SlotTemplate

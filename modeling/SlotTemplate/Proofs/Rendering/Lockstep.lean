import SlotTemplate.Proofs.FreeNames
import SlotTemplate.Proofs.Rendering

/-!
# Renderings side by side

Two renderings run in lockstep: they start in scopes that are given, what the first has written is a
given text followed by what the second has written, and both do the same from there on. The scopes
are the same again after each step, whether it succeeds or not.

* `Lockstep.Agree`: two steps agree, with one lemma for each way to make a step;
* `Lockstep.agree_render_of_invoked`, `Lockstep.agree_render`: nodes agree in scopes with the same
  values of their free names, if their invocations or the components that they invoke do;
* `Lockstep.agree_renderLevels`: templates agree at any depth, if the two engines find the same
  templates.
-/

namespace SlotTemplate

open Rendering

/-- How two renderings compare. -/
structure Lockstep where
  /-- The errors with which the first one may fail while the second one goes on. -/
  excused : RenderError → Prop
  /-- The errors with which both may fail. -/
  common : RenderError → Prop
  caches : Cache → Cache → Prop

namespace Lockstep

/-- The states of two renderings in given scopes; the first one has written `before` in addition. -/
structure States (L : Lockstep) (s s' : Scope) (before : String) (p q : Pass) : Prop where
  left : p.scope = s
  right : q.scope = s'
  out : p.out = before ++ q.out
  caches : L.caches p.cache q.cache

/-- What two steps come to: both succeed with related results or both fail with the same error, in
related states, or the first one fails with an error that is excused. -/
inductive Outcomes (L : Lockstep) {α β : Type} (S : α → β → Prop) (R : Pass → Pass → Prop) :
    Except RenderError α × Pass → Except RenderError β × Pass → Prop where
  | ok {a : α} {b : β} {p q : Pass} (results : S a b) (states : R p q) :
      Outcomes L S R (.ok a, p) (.ok b, q)
  | failed {err : RenderError} {p q : Pass} (common : L.common err) (states : R p q) :
      Outcomes L S R (.error err, p) (.error err, q)
  | excused {err : RenderError} {p : Pass} {y : Except RenderError β × Pass}
      (excused : L.excused err) : Outcomes L S R (.error err, p) y

/-- Two steps agree if they come to the same from states that compare. -/
def Agree (L : Lockstep) (s s' : Scope) (before : String) {α β : Type} (m : Rendering α)
    (m' : Rendering β) (S : α → β → Prop) : Prop :=
  ∀ p q, L.States s s' before p q → L.Outcomes S (L.States s s' before) (m p) (m' q)

namespace Agree

variable {L : Lockstep} {s s' : Scope} {before : String} {α α' β β' : Type} {S : α → α' → Prop}
  {T : β → β' → Prop}

theorem pure {a : α} {a' : α'} (h : S a a') : L.Agree s s' before (Pure.pure a) (Pure.pure a') S :=
  fun _ _ states => .ok h states

theorem throw {err : RenderError} (h : L.common err) :
    L.Agree s s' before (throw err : Rendering α) (throw err : Rendering α') S :=
  fun _ _ states => .failed h states

/-- The first step may stop with an error that is excused, whatever the second one does. -/
theorem stop {err : RenderError} (h : L.excused err) (m' : Rendering α') :
    L.Agree s s' before (MonadExcept.throw err : Rendering α) m' S :=
  fun _ _ _ => .excused h

theorem bind {m : Rendering α} {m' : Rendering α'} {f : α → Rendering β} {f' : α' → Rendering β'}
    (hm : L.Agree s s' before m m' S)
    (hf : ∀ a a', S a a' → L.Agree s s' before (f a) (f' a') T) :
    L.Agree s s' before (m >>= f) (m' >>= f') T := by
  intro p q states
  have h := hm p q states
  rw [bind_run, bind_run]
  generalize m p = x, m' q = y at h
  cases h with
  | ok results states => exact hf _ _ results _ _ states
  | failed common states => exact .failed common states
  | excused h => exact .excused h

/-- What is done with the states may use that they compare. -/
theorem get_bind {k : Pass → Rendering β} {k' : Pass → Rendering β'}
    (h : ∀ p q, L.States s s' before p q → L.Agree s s' before (k p) (k' q) T) :
    L.Agree s s' before (do k (← get)) (do k' (← get)) T :=
  fun p q states => h p q states p q states

theorem eval {e : Expr} (h : s.AgreeOn s' e.names) :
    L.Agree s s' before (eval e) (eval e) Eq := by
  intro p q states
  have same : e.eval p.scope = e.eval q.scope := by
    rw [states.left, states.right]
    exact Expr.eval_congr h
  exact .ok same states

theorem write (text : String) : L.Agree s s' before (write text) (write text) Eq := by
  intro p q states
  refine .ok rfl ⟨states.left, states.right, ?_, states.caches⟩
  change p.out ++ text = before ++ (q.out ++ text)
  rw [states.out, String.append_assoc]

theorem withFrame {frame : Data} {body body' : Rendering Unit}
    (h : L.Agree (s.push frame) (s'.push frame) before body body' Eq) :
    L.Agree s s' before (withFrame frame body) (withFrame frame body') Eq := by
  intro p q states
  have inner := h { p with scope := p.scope.push frame } { q with scope := q.scope.push frame }
    ⟨by rw [states.left], by rw [states.right], states.out, states.caches⟩
  have pop {p₁ q₁ : Pass} (hs : L.States (s.push frame) (s'.push frame) before p₁ q₁) :
      L.States s s' before { p₁ with scope := p₁.scope.pop } { q₁ with scope := q₁.scope.pop } :=
    ⟨by rw [hs.left, Scope.pop_push], by rw [hs.right, Scope.pop_push], hs.out, hs.caches⟩
  unfold Rendering.withFrame
  generalize body _ = x, body' _ = y at inner
  cases inner with
  | ok results states => exact .ok results (pop states)
  | failed common states => exact .failed common (pop states)
  | excused h => exact .excused h

/-- Captured steps write the same, whatever was written before. -/
theorem capture {body body' : Rendering Unit} (h : L.Agree s s' "" body body' Eq) :
    L.Agree s s' before (capture body) (capture body') Eq := by
  intro p q states
  have inner := h { p with out := "" } { q with out := "" }
    ⟨states.left, states.right, rfl, states.caches⟩
  have restore {p₁ q₁ : Pass} (hs : L.States s s' "" p₁ q₁) :
      L.States s s' before { p₁ with out := p.out } { q₁ with out := q.out } :=
    ⟨hs.left, hs.right, states.out, hs.caches⟩
  unfold Rendering.capture
  generalize body _ = x, body' _ = y at inner
  cases inner with
  | ok results states => exact .ok (by rw [states.out, String.empty_append]) (restore states)
  | failed common states => exact .failed common (restore states)
  | excused h => exact .excused h

/-- Steps in scopes of their own agree in all scopes. -/
theorem isolate {data data' : Data} {body body' : Rendering Unit}
    (h : L.Agree (.ofData data) (.ofData data') "" body body' Eq) :
    L.Agree s s' before (isolate data body) (isolate data' body') Eq := by
  intro p q states
  have inner := h ⟨.ofData data, "", p.cache⟩ ⟨.ofData data', "", q.cache⟩
    ⟨rfl, rfl, rfl, states.caches⟩
  have leave {p₁ q₁ : Pass} (hs : L.States (.ofData data) (.ofData data') "" p₁ q₁) :
      L.States s s' before { p with cache := p₁.cache } { q with cache := q₁.cache } :=
    ⟨states.left, states.right, states.out, hs.caches⟩
  unfold Rendering.isolate
  generalize body _ = x, body' _ = y at inner
  cases inner with
  | ok results states => exact .ok (by rw [states.out, String.empty_append]) (leave states)
  | failed common states => exact .failed common (leave states)
  | excused h => exact .excused h

theorem forItems {variableName : String} {total : Nat} {body body' : Rendering Unit}
    (h : ∀ index item, L.Agree (s.push (loopFrame variableName index total item))
      (s'.push (loopFrame variableName index total item)) before body body' Eq)
    (index : Nat) (items : List Value) :
    L.Agree s s' before (forItems variableName total body index items)
      (forItems variableName total body' index items) Eq := by
  induction items generalizing index with
  | nil => exact pure rfl
  | cons item items ih => exact bind (withFrame (h index item)) fun _ _ _ => ih (index + 1)

/-- What an agreement says about one run of each step. -/
theorem results {m m' : Rendering α} (h : L.Agree s s' before m m' Eq) {p q : Pass}
    (states : L.States s s' before p q) :
    (m p).1 = (m' q).1 ∧ L.States s s' before (m p).2 (m' q).2 ∨
      ∃ err, (m p).1 = .error err ∧ L.excused err := by
  have h := h p q states
  generalize m p = x, m' q = y at h
  cases h with
  | ok results states => exact .inl ⟨congrArg Except.ok results, states⟩
  | failed common states => exact .inl ⟨rfl, states⟩
  | excused h => exact .inr ⟨_, rfl, h⟩

/-- Where nothing is excused, both runs come to the same. -/
theorem same_results {m m' : Rendering α} (h : L.Agree s s' before m m' Eq)
    (strict : ∀ err, ¬ L.excused err) {p q : Pass} (states : L.States s s' before p q) :
    (m p).1 = (m' q).1 ∧ L.States s s' before (m p).2 (m' q).2 := by
  rcases h.results states with same | ⟨err, _, excused⟩
  · exact same
  · exact absurd excused (strict err)

theorem errors {m m' : Rendering α} (h : L.Agree s s' before m m' Eq) {p q : Pass}
    (states : L.States s s' before p q) {err : RenderError} (failure : (m p).1 = .error err) :
    L.common err ∨ L.excused err := by
  have h := h p q states
  generalize m p = x, m' q = y at h failure
  cases h with
  | ok results states => cases failure
  | failed common states =>
    cases failure
    exact .inl common
  | excused h =>
    cases failure
    exact .inr h

section

variable {autoescape : Bool} {invoke invoke' : Invoke}

/-- The second nodes may be made from the first ones. -/
theorem renderAll_map {f : Node → Node} {ns : List Node}
    (h : ∀ n ∈ ns,
      L.Agree s s' before (n.render autoescape invoke) ((f n).render autoescape invoke') Eq) :
    L.Agree s s' before (renderAll autoescape invoke ns) (renderAll autoescape invoke' (ns.map f))
      Eq := by
  induction ns with
  | nil => exact pure rfl
  | cons n ns ih =>
    obtain ⟨here, there⟩ := List.forall_mem_cons.1 h
    exact bind here fun _ _ _ => ih there

theorem renderAll {ns : List Node}
    (h : ∀ n ∈ ns,
      L.Agree s s' before (n.render autoescape invoke) (n.render autoescape invoke') Eq) :
    L.Agree s s' before (SlotTemplate.renderAll autoescape invoke ns)
      (SlotTemplate.renderAll autoescape invoke' ns) Eq := by
  simpa only [List.map_id] using renderAll_map (f := id) h

theorem renderSlots {slots : List Slot}
    (h : ∀ slot ∈ slots, L.Agree s s' "" (SlotTemplate.renderAll autoescape invoke slot.content)
      (SlotTemplate.renderAll autoescape invoke' slot.content) Eq) (filled : SlotMap) :
    L.Agree s s' before (renderSlots autoescape invoke slots filled)
      (renderSlots autoescape invoke' slots filled) Eq := by
  induction slots generalizing filled with
  | nil => exact pure rfl
  | cons slot slots ih =>
    obtain ⟨here, there⟩ := List.forall_mem_cons.1 h
    obtain ⟨name, content⟩ := slot
    have named : L.Agree s s' before (Slot.render autoescape invoke ⟨name, content⟩)
        (Slot.render autoescape invoke' ⟨name, content⟩) Eq := by
      refine bind (capture here) fun text text' same => ?_
      exact pure (by rw [same])
    refine bind named ?_
    rintro r _ rfl
    exact ih there (filled.insert r.1 r.2)

end

end Agree

/-! ## Nodes -/

/-- Components with a property are invoked alike in all scopes. -/
def Invokes (L : Lockstep) (K : Component → Prop) (invoke invoke' : Invoke) : Prop :=
  ∀ c, K c → ∀ slots args s s' before,
    L.Agree s s' before (invoke c slots args) (invoke' c slots args) Eq

/-- What a node invokes, if it is an invocation, is invoked alike in all scopes with what the
arguments evaluate to in a scope. -/
def Invoked (L : Lockstep) (invoke invoke' : Invoke) (n : Node) : Prop :=
  ∀ c tag args slots span, n = .invocation c tag args slots span → ∀ filled scope s s' before,
    let values := Dict.ofList (args.map fun a => (a.name, a.value.eval scope))
    L.Agree s s' before (invoke c filled values) (invoke' c filled values) Eq

/-- A node whose invocations are alike renders alike in scopes with the same values of its free
names. -/
theorem agree_render_of_invoked {L : Lockstep} {autoescape : Bool} {invoke invoke' : Invoke}
    {n : Node} (hn : n.Everywhere (L.Invoked invoke invoke')) {s s' : Scope}
    (hs : s.AgreeOn s' n.freeNames) (before : String) :
    L.Agree s s' before (n.render autoescape invoke) (n.render autoescape invoke') Eq := by
  induction hn generalizing s s' before with
  | @intro node here _ ih =>
    -- the list of nodes below this one that is rendered next
    have inside {ns : List Node} (below : ∀ n ∈ ns, n ∈ node.children) {s s' : Scope}
        (hs : s.AgreeOn s' (freeNamesOfAll ns)) (before : String) :
        L.Agree s s' before (renderAll autoescape invoke ns) (renderAll autoescape invoke' ns) Eq :=
      .renderAll fun n hn => ih n (below n hn) (hs.of_mem hn) before
    cases node with
    | text t =>
      rw [Node.render, Node.render]
      exact .write t
    | «variable» e =>
      rw [Node.render, Node.render]
      refine .bind (.eval hs) ?_
      rintro v _ rfl
      exact .write (v.render autoescape)
    | conditional negated condition thenBranch elseBranch =>
      obtain ⟨head, branches⟩ := Scope.AgreeOn.append_iff.1 hs
      obtain ⟨first, second⟩ := Scope.AgreeOn.append_iff.1 branches
      rw [Node.render, Node.render]
      refine .bind (.eval head) ?_
      rintro v _ rfl
      split
      · exact inside (fun n hn => List.mem_append_left _ hn) first before
      · exact inside (fun n hn => List.mem_append_right _ hn) second before
    | loop variableName iterable body empty =>
      obtain ⟨head, branches⟩ := Scope.AgreeOn.append_iff.1 hs
      obtain ⟨first, second⟩ := Scope.AgreeOn.append_iff.1 branches
      rw [Node.render, Node.render]
      refine .bind (.eval head) ?_
      rintro v _ rfl
      dsimp only
      split
      · exact inside (fun n hn => List.mem_append_right _ hn) second before
      · refine .forItems (fun index item => ?_) 0 v.items
        have framed := first.push_loopFrame index v.items.length item
        exact inside (fun n hn => List.mem_append_left _ hn) framed before
    | invocation c tag args slots span =>
      obtain ⟨arguments, contents⟩ := Scope.AgreeOn.append_iff.1 hs
      rw [Node.render, Node.render]
      have slotsAgree : L.Agree s s' before (renderSlots autoescape invoke slots SlotMap.empty)
          (renderSlots autoescape invoke' slots SlotMap.empty) Eq := by
        refine .renderSlots (fun slot hslot => ?_) SlotMap.empty
        have below : ∀ n ∈ slot.content, n ∈ (Node.invocation c tag args slots span).children :=
          fun n hn => List.mem_flatMap.2 ⟨slot, hslot, hn⟩
        exact inside below (contents.of_mem_slots hslot) ""
      refine .bind slotsAgree ?_
      rintro filled _ rfl
      refine .get_bind fun p q states => ?_
      dsimp only
      rw [states.left, states.right, Argument.eval_congr arguments]
      exact here c tag args slots span rfl filled s' s s' before
    | marker name content span line =>
      obtain ⟨slotsName, contents⟩ := List.forall_mem_cons.1 hs
      rw [Node.render, Node.render]
      refine .get_bind fun p q states => ?_
      rw [states.left, states.right, filledSlot?_congr slotsName]
      split
      · exact .write _
      · exact inside (fun n hn => hn) contents before
    | slotOutput name =>
      have slotsName : s.get? "slots" = s'.get? "slots" := hs "slots" List.mem_cons_self
      rw [Node.render, Node.render]
      refine .get_bind fun p q states => ?_
      rw [states.left, states.right, filledSlot?_congr slotsName]
      exact .write _
    | empty =>
      rw [Node.render, Node.render]
      exact .pure rfl

/-- A node that invokes only components that are invoked alike renders alike in such scopes. -/
theorem agree_render {L : Lockstep} {K : Component → Prop} {autoescape : Bool}
    {invoke invoke' : Invoke} (hi : L.Invokes K invoke invoke') {n : Node}
    (hn : n.Everywhere fun n => ∀ c ∈ n.component?, K c) {s s' : Scope}
    (hs : s.AgreeOn s' n.freeNames) (before : String) :
    L.Agree s s' before (n.render autoescape invoke) (n.render autoescape invoke') Eq := by
  refine agree_render_of_invoked (hn.mono fun n here => ?_) hs before
  rintro c tag args slots span rfl filled scope s s' before
  exact hi c (here c rfl) filled _ s s' before

theorem agree_renderAll {L : Lockstep} {K : Component → Prop} {autoescape : Bool}
    {invoke invoke' : Invoke} (hi : L.Invokes K invoke invoke') {ns : List Node}
    (hn : ∀ n ∈ ns, n.Everywhere fun n => ∀ c ∈ n.component?, K c) {s s' : Scope}
    (hs : s.AgreeOn s' (freeNamesOfAll ns)) (before : String) :
    L.Agree s s' before (renderAll autoescape invoke ns) (renderAll autoescape invoke' ns) Eq :=
  .renderAll fun n h => agree_render hi (hn n h) (hs.of_mem h) before

/-! ## Engines -/

section

variable {L : Lockstep} {e e' : Engine} {files : Files}

/-- With two caches, two engines find the same template under a name, of which something holds. -/
structure Finds (L : Lockstep) (e e' : Engine) (files : Files) (name : String)
    (T : Template → Prop) (cache cache' : Cache) : Prop where
  same : (e.fetch files name cache).1 = (e'.fetch files name cache').1
  caches : L.caches (e.fetch files name cache).2 (e'.fetch files name cache').2
  common : ∀ err, (e.fetch files name cache).1 = .error err → L.common err
  found : ∀ t, (e.fetch files name cache).1 = .ok t → T t

/-- Two engines agree where they look for a template, if they find templates that compare. -/
theorem agree_getTemplate_of_outcomes {name : String} {R : Template → Template → Prop}
    (finds : ∀ cache cache', L.caches cache cache' →
      SameOutcome R (e.fetch files name cache).1 (e'.fetch files name cache').1 ∧
        L.caches (e.fetch files name cache).2 (e'.fetch files name cache').2 ∧
        ∀ err, (e.fetch files name cache).1 = .error err → L.common err)
    (s s' : Scope) (before : String) :
    L.Agree s s' before (e.getTemplate files name) (e'.getTemplate files name) R := by
  intro p q states
  obtain ⟨same, caches, common⟩ := finds p.cache q.cache states.caches
  unfold Engine.getTemplate
  generalize e.fetch files name p.cache = x, e'.fetch files name q.cache = y at *
  obtain ⟨result, cache⟩ := x
  obtain ⟨result', cache'⟩ := y
  cases same with
  | ok both => exact .ok both ⟨states.left, states.right, states.out, caches⟩
  | error err => exact .failed (common err rfl) ⟨states.left, states.right, states.out, caches⟩

theorem agree_getTemplate {name : String} {T : Template → Prop}
    (finds : ∀ cache cache', L.caches cache cache' → L.Finds e e' files name T cache cache')
    (s s' : Scope) (before : String) :
    L.Agree s s' before (e.getTemplate files name) (e'.getTemplate files name)
      fun t t' => t = t' ∧ T t := by
  refine agree_getTemplate_of_outcomes (fun cache cache' caches => ?_) s s' before
  obtain ⟨same, caches, common, found⟩ := finds cache cache' caches
  rw [← same]
  exact ⟨(SameOutcome.refl (fun _ => rfl) _).and_left found, caches, common⟩

/-- Two engines invoke a component alike, if they find templates for it that compare and render
such templates alike with the variables that the component makes. -/
theorem agree_invoke_of_agree {c : Component} {slots : SlotMap} {args : Data}
    {R : Template → Template → Prop} {nested nested' : Template → Data → Rendering String}
    (extension : e.config.extension = e'.config.extension)
    (validation : ∀ cause, L.common (.validation c.name cause))
    (getTemplate : ∀ s s' before,
      L.Agree s s' before (e.getTemplate files (c.templateName e.config.extension))
        (e'.getTemplate files (c.templateName e.config.extension)) R)
    (render : ∀ t t' data, c.context slots args = .ok data → R t t' → ∀ s s' before,
      L.Agree s s' before (nested t data) (nested' t' data) Eq)
    (s s' : Scope) (before : String) :
    L.Agree s s' before (e.invoke files nested c slots args)
      (e'.invoke files nested' c slots args) Eq := by
  rw [Engine.invoke, Engine.invoke, ← extension]
  cases made : c.context slots args with
  | error cause => exact .throw (validation cause)
  | ok data =>
    refine .bind (getTemplate s s' before) fun t t' both => ?_
    refine .bind (render t t' data made both s s' before) ?_
    rintro text _ rfl
    exact .write text

/-- Two engines invoke a component alike, if they find the same template for it and render that
template alike. -/
theorem agree_invoke {c : Component} {T : Template → Prop}
    {nested nested' : Template → Data → Rendering String}
    (extension : e.config.extension = e'.config.extension)
    (validation : ∀ cause, L.common (.validation c.name cause))
    (finds : ∀ cache cache', L.caches cache cache' →
      L.Finds e e' files (c.templateName e.config.extension) T cache cache')
    (render : ∀ t data, T t → ∀ s s' before,
      L.Agree s s' before (nested t data) (nested' t data) Eq)
    (slots : SlotMap) (args : Data) (s s' : Scope) (before : String) :
    L.Agree s s' before (e.invoke files nested c slots args)
      (e'.invoke files nested' c slots args) Eq := by
  refine agree_invoke_of_agree extension validation (agree_getTemplate finds) ?_ s s' before
  rintro t _ data - ⟨rfl, ht⟩
  exact render t data ht

/-- A template is rendered alike, if the components that it invokes are invoked alike. -/
theorem agree_renderLevels_succ {K : Component → Prop} {levels levels' : Nat}
    (autoescape : e.config.autoescape = e'.config.autoescape)
    (hi : L.Invokes K (e.invoke files (e.renderLevels files levels))
      (e'.invoke files (e'.renderLevels files levels'))) {t : Template}
    (ht : ∀ n ∈ t.nodes, n.Everywhere fun n => ∀ c ∈ n.component?, K c) (data : Data)
    (s s' : Scope) (before : String) :
    L.Agree s s' before (e.renderLevels files (levels + 1) t data)
      (e'.renderLevels files (levels' + 1) t data) Eq := by
  rw [Engine.renderLevels, Engine.renderLevels, ← autoescape]
  exact .isolate (agree_renderAll hi ht (.refl (.ofData data) _) "")

/-- Templates that agree as deep as components are followed are rendered alike. -/
theorem renderTemplate_eq_of_agree (strict : ∀ err, ¬ L.excused err)
    (depth : e.config.maxDepth = e'.config.maxDepth) (caches : L.caches e.cache e'.cache)
    {t t' : Template} {data : Data}
    (agree : L.Agree .empty .empty "" (e.renderLevels files (e.config.maxDepth + 1) t data)
      (e'.renderLevels files (e.config.maxDepth + 1) t' data) Eq) :
    (e.renderTemplate files t data).1 = (e'.renderTemplate files t' data).1 := by
  have start : L.States .empty .empty "" ⟨.empty, "", e.cache⟩ ⟨.empty, "", e'.cache⟩ :=
    ⟨rfl, rfl, rfl, caches⟩
  rw [Engine.renderTemplate, Engine.renderTemplate, ← depth]
  exact (agree.same_results strict start).1

/-- What makes two engines render alike: they have the same settings and find the same templates. -/
structure Engines (L : Lockstep) (e e' : Engine) (files : Files) : Prop where
  autoescape : e.config.autoescape = e'.config.autoescape
  extension : e.config.extension = e'.config.extension
  validation : ∀ name cause, L.common (.validation name cause)
  finds : ∀ name cache cache', L.caches cache cache' →
    L.Finds e e' files name (fun _ => True) cache cache'

/-- Renderings that find the same in the same caches, the first of which may be excused. -/
def sameCaches (excused : RenderError → Prop) : Lockstep := ⟨excused, fun _ => True, Eq⟩

theorem engines_of_fetch (excused : RenderError → Prop)
    (autoescape : e.config.autoescape = e'.config.autoescape)
    (extension : e.config.extension = e'.config.extension)
    (fetch : ∀ name cache, e.fetch files name cache = e'.fetch files name cache) :
    (sameCaches excused).Engines e e' files := by
  refine ⟨autoescape, extension, fun _ _ => trivial, ?_⟩
  rintro name cache _ rfl
  have same : e.fetch files name cache = e'.fetch files name cache := fetch name cache
  exact ⟨congrArg Prod.fst same, congrArg Prod.snd same, fun _ _ => trivial, fun _ _ => trivial⟩

/-- The second engine may go `more` levels deeper, if it agrees with the first one where the first
one is at its limit. -/
theorem agree_renderLevels (h : L.Engines e e' files) (more : Nat)
    (limit : ∀ t data s s' before, L.Agree s s' before (e.renderLevels files 0 t data)
      (e'.renderLevels files more t data) Eq)
    (levels : Nat) (t : Template) (data : Data) (s s' : Scope) (before : String) :
    L.Agree s s' before (e.renderLevels files levels t data)
      (e'.renderLevels files (levels + more) t data) Eq := by
  induction levels generalizing t data s s' before with
  | zero =>
    rw [Nat.zero_add]
    exact limit t data s s' before
  | succ levels ih =>
    rw [Nat.succ_add]
    have invoked : L.Invokes (fun _ => True) (e.invoke files (e.renderLevels files levels))
        (e'.invoke files (e'.renderLevels files (levels + more))) := by
      intro c _ slots args
      exact agree_invoke h.extension (h.validation c.name) (h.finds _) (fun t data _ => ih t data)
        slots args
    have all : ∀ n ∈ t.nodes, n.Everywhere fun n => ∀ c ∈ n.component?, True :=
      fun n _ => n.everywhere_of_forall fun _ _ _ => trivial
    exact agree_renderLevels_succ h.autoescape invoked all data s s' before

end

end Lockstep

end SlotTemplate

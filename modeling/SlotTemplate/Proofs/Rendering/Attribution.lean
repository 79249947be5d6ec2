import SlotTemplate.Proofs.Components
import SlotTemplate.Proofs.Rendering.Caching
import SlotTemplate.Proofs.Rendering.Machine

/-!
# Where a rendering fails

A rendering fails at an invocation and nowhere else, and what the error says is true of the
component that is invoked there and of its template, however deep the invocation lies and whether
the template was compiled before or not.

* `Machine.step_sound`, `Machine.steps_sound`: the templates that a machine is inside of invoke only
  components in play, and what is kept is what would be loaded;
* `Engine.Attributed`: what an error says of the component at which it arises;
* `Machine.step_attributed`, `Machine.steps_attributed`: a step fails at an invocation, and so does
  a run;
* `Engine.render_error_attributed`: every error of a rendering is attributed.
-/

namespace SlotTemplate

namespace Machine

open Rendering

/-! ## Invariants of a run -/

/-- Nodes invoke only components with a property. -/
def InvokeOnly (K : Component → Prop) (ns : List Node) : Prop :=
  ∀ n ∈ ns, n.Everywhere fun n => ∀ c ∈ n.component?, K c

/-- What is left to do invokes only components with a property. -/
def Task.Uses (K : Component → Prop) : Task → Prop
  | .nodes ns => InvokeOnly K ns
  | .items _ _ _ _ body => InvokeOnly K body
  | .leave => True
  | .fill c _ slots _ => K c ∧ ∀ slot ∈ slots, InvokeOnly K slot.content
  | .keep c _ _ _ slots _ => K c ∧ ∀ slot ∈ slots, InvokeOnly K slot.content

def UsesAll (K : Component → Prop) (tasks : List Task) : Prop := ∀ task ∈ tasks, task.Uses K

theorem usesAll_cons {K : Component → Prop} {task : Task} {tasks : List Task} :
    UsesAll K (task :: tasks) ↔ task.Uses K ∧ UsesAll K tasks :=
  List.forall_mem_cons

/-- The templates that are rendered invoke only components with a property, and what is kept under a
name is what would be loaded under it. -/
structure State.Sound (e : Engine) (files : Files) (K : Component → Prop) (a : Activation)
    (callers : List Activation) (cache : Cache) : Prop where
  current : UsesAll K a.tasks
  callers : ∀ b ∈ callers, UsesAll K b.tasks
  cache : e.Faithful files cache

/-- A state is sound unless the machine has ended. -/
def State.IsSound (e : Engine) (files : Files) (K : Component → Prop) : State → Prop
  | .running a callers cache => State.Sound e files K a callers cache
  | .ended _ _ => True

section

variable {e : Engine} {files : Files} {K : Component → Prop}

/-- Below a node stand no other components than the node has everywhere. -/
theorem InvokeOnly.of_children {n : Node} {ns : List Node}
    (h : n.Everywhere fun n => ∀ c ∈ n.component?, K c) (below : ∀ m ∈ ns, m ∈ n.children) :
    InvokeOnly K ns :=
  fun m hm => h.inside m (below m hm)

theorem Activation.start_uses {a : Activation} {n : Node} (h : UsesAll K a.tasks)
    (hn : n.Everywhere fun n => ∀ c ∈ n.component?, K c) (autoescape : Bool) :
    UsesAll K (a.start autoescape n).tasks := by
  cases n with
  | text | «variable» | slotOutput | empty => exact h
  | conditional negated condition thenBranch elseBranch =>
    refine usesAll_cons.2 ⟨InvokeOnly.of_children hn fun m hm => ?_, h⟩
    split at hm
    · exact List.mem_append_left _ hm
    · exact List.mem_append_right _ hm
  | loop variableName iterable body empty =>
    refine usesAll_cons.2 ⟨?_, h⟩
    split
    · exact InvokeOnly.of_children hn fun m => List.mem_append_right _
    · exact InvokeOnly.of_children hn fun m => List.mem_append_left _
  | invocation c tag args slots span =>
    refine usesAll_cons.2 ⟨⟨hn.here c rfl, fun slot hslot => ?_⟩, h⟩
    exact InvokeOnly.of_children hn fun m hm => List.mem_flatMap.2 ⟨slot, hslot, hm⟩
  | marker name content span line =>
    rw [Activation.start]
    split
    · exact h
    · exact usesAll_cons.2 ⟨InvokeOnly.of_children hn fun m hm => hm, h⟩

/-- Templates that an engine loads invoke only components of its tags. -/
theorem invokeOnly_of_load (components : e.AllComponents K) {name : String} {t : Template}
    (h : e.load files name = .ok t) : InvokeOnly K t.nodes := by
  obtain ⟨source, -, compiled⟩ := Engine.load_eq_ok_iff.1 h
  exact Template.CompiledWith.invokes ⟨e, name, source, components, compiled⟩

theorem call_sound (components : e.AllComponents K) {a : Activation} {callers : List Activation}
    {cache : Cache} (h : State.Sound e files K a callers cache) (c : Component) (slots : SlotMap)
    (args : Data) : (call e files a callers cache c slots args).IsSound e files K := by
  unfold call
  split
  · trivial
  · obtain ⟨same, kept⟩ := Engine.fetch_faithful h.cache (c.templateName e.config.extension)
    split
    · trivial
    · rename_i t cache' found
      rw [found] at same kept
      split
      · trivial
      · refine ⟨List.forall_mem_singleton.2 (invokeOnly_of_load components same.symm), ?_, kept⟩
        exact List.forall_mem_cons.2 ⟨h.current, h.callers⟩

/-- A step keeps a state sound. -/
theorem step_sound (components : e.AllComponents K) {s : State} (h : s.IsSound e files K) :
    (step e files s).IsSound e files K := by
  fun_cases step e files s with
  | case1 | case2 => trivial
  | case3 =>
    obtain ⟨caller, callers⟩ := List.forall_mem_cons.1 h.callers
    exact ⟨caller, callers, h.cache⟩
  | case4 | case6 | case8 => exact ⟨(usesAll_cons.1 h.current).2, h.callers, h.cache⟩
  | case5 depth n ns tasks scope out =>
    obtain ⟨nodes, others⟩ := usesAll_cons.1 h.current
    obtain ⟨node, rest⟩ := List.forall_mem_cons.1 nodes
    have left : UsesAll K (.nodes ns :: tasks) := usesAll_cons.2 ⟨rest, others⟩
    have started := Activation.start_uses (a := ⟨depth, .nodes ns :: tasks, scope, out⟩) left node
    exact ⟨started _, h.callers, h.cache⟩
  | case7 =>
    obtain ⟨body, others⟩ := usesAll_cons.1 h.current
    -- the body is rendered once more while the loop is left to do
    exact ⟨usesAll_cons.2 ⟨body, usesAll_cons.2 ⟨trivial, usesAll_cons.2 ⟨body, others⟩⟩⟩,
      h.callers, h.cache⟩
  | case9 =>
    exact call_sound components ⟨(usesAll_cons.1 h.current).2, h.callers, h.cache⟩ _ _ _
  | case10 =>
    obtain ⟨⟨invoked, slots⟩, tasks⟩ := usesAll_cons.1 h.current
    obtain ⟨slot, slots⟩ := List.forall_mem_cons.1 slots
    exact ⟨usesAll_cons.2 ⟨slot, usesAll_cons.2 ⟨⟨invoked, slots⟩, tasks⟩⟩, h.callers, h.cache⟩
  | case11 =>
    obtain ⟨fill, tasks⟩ := usesAll_cons.1 h.current
    exact ⟨usesAll_cons.2 ⟨fill, tasks⟩, h.callers, h.cache⟩

/-- So do all steps of a run. -/
theorem steps_sound (components : e.AllComponents K) {s : State} (h : s.IsSound e files K)
    (n : Nat) : (steps e files n s).IsSound e files K := by
  induction n generalizing s with
  | zero => exact h
  | succ n ih => exact ih (step_sound components h)

end

end Machine

/-! ## Errors -/

/-- What an error says of the component at whose invocation it arises, and of its template. -/
def Engine.Attributed (e : Engine) (files : Files) (c : Component) (args : Data) :
    RenderError → Prop
  | .validation component cause => c.name = component ∧ c.signature.bind args = .error cause
  | .notFound err =>
    c.templateName e.config.extension = err.name ∧ e.templateSource files err.name = .error err
  | .compile name err =>
    c.templateName e.config.extension = name ∧
      ∃ source, e.templateSource files name = .ok source ∧ e.compileNamed name source = .error err
  | .recursionLimit template limit =>
    c.templateName e.config.extension = template ∧ limit = e.config.maxDepth ∧
      ∃ source t, e.templateSource files template = .ok source ∧
        e.compileNamed template source = .ok t

namespace Engine

variable {e : Engine} {files : Files}

theorem templateSource_error_name {name : String} {err : NotFound}
    (h : e.templateSource files name = .error err) : err.name = name := by
  unfold templateSource at h
  split at h
  · cases h
  · split at h <;> cases h
    rfl

theorem compileNamed_name {name source : String} {t : Template}
    (h : e.compileNamed name source = .ok t) : t.name = name := by
  obtain ⟨nodes, -, rfl⟩ := map_eq_ok_iff.1 h
  rfl

/-- Only arguments that the signature rejects keep a component from rendering that hands them
over. -/
theorem bind_of_context_error {c : Component} (handsOver : c.HandsOver) {slots : SlotMap}
    {args : Data} {cause : BindingError} (h : c.context slots args = .error cause) :
    c.signature.bind args = .error cause := by
  rw [handsOver.context] at h
  exact map_eq_error_iff.1 h

theorem attributed_of_load_error {c : Component} {err : RenderError}
    (h : e.load files (c.templateName e.config.extension) = .error err) (args : Data) :
    e.Attributed files c args err := by
  unfold load at h
  split at h
  · rename_i missing
    cases h
    have name := templateSource_error_name missing
    exact ⟨name.symm, by rwa [name]⟩
  · rename_i source found
    obtain ⟨_, failed, rfl⟩ := mapError_eq_error_iff.1 h
    exact ⟨rfl, source, found, failed⟩

/-- A template that is loaded may be blamed for nesting too deeply. -/
theorem attributed_of_load {c : Component} {t : Template}
    (h : e.load files (c.templateName e.config.extension) = .ok t) (args : Data) :
    e.Attributed files c args (.recursionLimit t.name e.config.maxDepth) := by
  obtain ⟨source, found, compiled⟩ := load_eq_ok_iff.1 h
  rw [compileNamed_name compiled]
  exact ⟨rfl, rfl, source, t, found, compiled⟩

end Engine

namespace Machine

/-- The component that a step invokes, with the texts of its slots and its arguments. -/
def State.invocation? : State → Option (Component × SlotMap × Data)
  | .running ⟨_, .fill c args [] filled :: _, scope, _⟩ _ _ =>
    some (c, filled, Dict.ofList (args.map fun a => (a.name, a.value.eval scope)))
  | _ => none

variable {e : Engine} {files : Files}

theorem call_attributed {c : Component} (handsOver : c.HandsOver) {cache cache' : Cache}
    (faithful : e.Faithful files cache) {a : Activation} {callers : List Activation}
    {slots : SlotMap} {args : Data} {err : RenderError}
    (h : call e files a callers cache c slots args = .ended (.error err) cache') :
    e.Attributed files c args err := by
  unfold call at h
  split at h
  · rename_i cause rejected
    cases h
    exact ⟨rfl, Engine.bind_of_context_error handsOver rejected⟩
  · obtain ⟨same, -⟩ := Engine.fetch_faithful faithful (c.templateName e.config.extension)
    split at h
    · rename_i failed
      cases h
      rw [failed] at same
      exact Engine.attributed_of_load_error same.symm args
    · rename_i t _ found
      rw [found] at same
      split at h <;> cases h
      exact Engine.attributed_of_load same.symm args

/-- A step that fails invokes a component, to which the error is attributed. -/
theorem step_attributed {s : State} (h : s.IsSound e files Component.HandsOver)
    {err : RenderError} {cache : Cache} (failed : step e files s = .ended (.error err) cache) :
    s = .ended (.error err) cache ∨
      ∃ c slots args, s.invocation? = some (c, slots, args) ∧ e.Attributed files c args err := by
  fun_cases step e files s with
  | case1 => exact .inl failed
  | case2 | case3 | case4 | case5 | case6 | case7 | case8 | case10 | case11 => cases failed
  | case9 =>
    obtain ⟨⟨handsOver, -⟩, -⟩ := usesAll_cons.1 h.current
    exact .inr ⟨_, _, _, rfl, call_attributed handsOver h.cache failed⟩

/-- A run that fails has come to such a step. -/
theorem steps_attributed (components : e.AllComponents Component.HandsOver) {s : State}
    (h : s.IsSound e files Component.HandsOver) {n : Nat} {err : RenderError} {cache : Cache}
    (failed : steps e files n s = .ended (.error err) cache) :
    s = .ended (.error err) cache ∨
      ∃ m c slots args, (steps e files m s).invocation? = some (c, slots, args) ∧
        e.Attributed files c args err := by
  induction n generalizing s with
  | zero => exact .inl failed
  | succ n ih =>
    obtain here | ⟨m, there⟩ := ih (step_sound components h) failed
    · exact (step_attributed h here).imp id fun found => ⟨0, found⟩
    · exact .inr ⟨m + 1, there⟩

end Machine

namespace Engine

open Machine

/-- Calls leave the tags of an engine as they are. -/
theorem answer_tags (e : Engine) (files : Files) (call : Call) :
    (e.answer files call).2.builtins = e.builtins ∧
      (e.answer files call).2.libraries = e.libraries := by
  cases call with
  | render name data =>
    simp only [answer, render, Prod.map]
    split <;> exact ⟨rfl, rfl⟩
  | renderSource source data =>
    simp only [answer, renderSource, Prod.map]
    split <;> exact ⟨rfl, rfl⟩
  | _ => exact ⟨rfl, rfl⟩

theorem answers_tags (e : Engine) (files : Files) (calls : List Call) :
    (answers files e calls).2.builtins = e.builtins ∧
      (answers files e calls).2.libraries = e.libraries := by
  induction calls generalizing e with
  | nil => exact ⟨rfl, rfl⟩
  | cons call calls ih =>
    obtain ⟨builtins, libraries⟩ := answer_tags e files call
    obtain ⟨builtins', libraries'⟩ := ih (e.answer files call).2
    exact ⟨builtins'.trans builtins, libraries'.trans libraries⟩

/-- What is kept after any calls is what would be loaded. -/
theorem answers_faithful (e : Engine) (files : Files) (caching : Bool) (calls : List Call) :
    (answers files (e.fresh caching) calls).2.Faithful files
      (answers files (e.fresh caching) calls).2.cache :=
  (answers_uncached faithful_empty calls).faithful

/-- After any calls, a rendering starts in a sound state. -/
theorem answers_sound {K : Component → Prop} {e : Engine} (components : e.AllComponents K)
    (files : Files) (caching : Bool) (calls : List Call) {t : Template} (compiled : t.CompiledWith K)
    (data : Data) :
    let last := (answers files (e.fresh caching) calls).2
    last.AllComponents K ∧ (start last t data).IsSound last files K := by
  intro last
  have tags : last.builtins = e.builtins ∧ last.libraries = e.libraries :=
    answers_tags (e.fresh caching) files calls
  refine ⟨⟨tags.1 ▸ components.builtins, tags.2 ▸ components.libraries⟩, ?_⟩
  exact ⟨List.forall_mem_singleton.2 compiled.invokes, List.forall_mem_nil _,
    answers_faithful e files caching calls⟩

/-- If components hand their arguments over, every error of a rendering can be attributed, after any
calls. It arises where a component is invoked. A template that does not compile has a source, whose
error is the one that is named; one that is not found is that of the component, and no source has
it; arguments that do not suit are those of the invocation, and they are rejected for the cause that
is named; and where templates nest too deeply the limit is the engine's and the template compiles. -/
theorem render_error_attributed {e : Engine} (components : e.AllComponents Component.HandsOver)
    (files : Files) (caching : Bool) (calls : List Call) :
    let last := (answers files (e.fresh caching) calls).2
    ∀ t data err, t.CompiledWith Component.HandsOver →
      (last.renderTemplate files t data).1 = .error err →
      ∃ n c slots args,
        (steps last files n (start last t data)).invocation? = some (c, slots, args) ∧
          last.Attributed files c args err := by
  intro last t data err compiled failed
  obtain ⟨inPlay, sound⟩ := answers_sound components files caching calls compiled data
  obtain ⟨n, ended⟩ := reaches_ended last files t data
  rw [failed] at ended
  obtain ⟨⟨⟩⟩ | found := steps_attributed inPlay sound ended
  exact found

theorem render_error_attributed_inner_template :
    let library := (Library.empty.component (Component.named "card")).component
      (Component.named "panel")
    let e := Engine.default.addBuiltins library
    let files := Files.inDirectory []
    let panel := "components/panel.html"
    let calls := [.addTemplate "components/card.html"
      "{% for x in xs %}{% panel/ %}{% endfor %}",
      .addTemplate panel "{% oops %}"]
    let last := (answers files (e.fresh true) calls).2
    let data := Dict.ofList [("xs", Value.list [.int 1])]
    let err := .unknownTag "oops" ⟨0, 10⟩ 1 []
    ∃ t, last.compileNamed "page" "{% card xs=xs %}{% /card %}" = .ok t ∧
      (last.renderTemplate files t data).1 = .error (.compile panel err) ∧
      ∃ n c slots args,
        (steps last files n (start last t data)).invocation? = some (c, slots, args) ∧
          c.templateName "html" = panel ∧
          ∃ source, last.templateSource files panel = .ok source ∧
            last.compileNamed panel source = .error err := by
  intro library e files panel calls last data err
  let source := "{% card xs=xs %}{% /card %}"
  obtain ⟨t, compiled⟩ : ∃ t, last.compileNamed "page" source = .ok t :=
    exists_eq_ok (by decide +kernel)
  have failed : ∀ t, last.compileNamed "page" source = .ok t →
      (last.renderTemplate files t data).1 = .error (.compile panel err) := by decide +kernel
  have components : e.AllComponents Component.HandsOver :=
    (Engine.default_components _).addBuiltins
      (Library.component_all (Library.component_all Dict.all_empty fun _ _ => rfl) fun _ _ => rfl)
  refine ⟨t, compiled, failed t compiled, ?_⟩
  exact render_error_attributed components files true calls t data _
    ⟨e, "page", source, components, compiled⟩ (failed t compiled)

end Engine

end SlotTemplate

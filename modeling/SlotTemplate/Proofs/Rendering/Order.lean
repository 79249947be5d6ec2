import SlotTemplate.Proofs.Rendering.Attribution
import SlotTemplate.Proofs.Rendering.Iteration

/-!
# Maps stay in order

The literals of a compiled template are ordered, since none of them is a map. So are the values that
a rendering starts from, and it makes no others of them, in loops, in slots and in the templates of
components.

* `Template.CompiledWith.ordered`: the expressions of compiled templates have ordered literals;
* `Machine.step_ordered`, `Machine.steps_ordered`: all scopes that a rendering comes to are ordered;
* `Engine.loops_ordered`: a rendering comes to no loop but such as `Engine.renderNodes_loop_ends`
  speaks of.
-/

namespace SlotTemplate

/-! ## Compiled templates -/

theorem Grammar.PrimaryForm.ordered (p : PrimaryForm) : p.tree.Ordered := by
  intro v hv
  unfold PrimaryForm.tree at hv
  split at hv <;> cases hv <;> constructor

theorem Expr.Sound.ordered {source : List Char} {e : Expr} (h : e.Sound source) : e.Ordered := by
  obtain ⟨primary, alternatives⟩ := h.primaries Grammar.PrimaryForm.ordered
  exact ⟨primary, alternatives⟩

/-- The literals in nodes are ordered, at any depth. -/
def OrderedAll (ns : List Node) : Prop := ∀ n ∈ ns, n.Everywhere fun n => ∀ e ∈ n.exprs, e.Ordered

theorem Template.CompiledWith.ordered {K : Component → Prop} {t : Template}
    (h : t.CompiledWith K) : OrderedAll t.nodes := by
  obtain ⟨e, name, source, -, compiled⟩ := h
  obtain ⟨d, tags, lexemes, derives⟩ := Engine.derives_of_compileNamed compiled
  exact fun n hn => (derives.sound lexemes n hn).mono fun n sound e he => (sound.exprs e he).ordered

/-! ## Components -/

/-- A component makes ordered variables of ordered arguments. -/
def Component.KeepsOrder (c : Component) : Prop :=
  ∀ slots args data, args.All Value.Ordered → c.context slots args = .ok data →
    data.All Value.Ordered

/-- Only defaults come to the arguments that a component hands over. -/
theorem Component.HandsOver.keepsOrder {c : Component} (h : c.HandsOver)
    (defaults : ∀ p ∈ c.signature.params, ∀ v, p.default? = some v → v.Ordered) : c.KeepsOrder :=
  fun _ _ _ ha made => h.context_all defaults (.safe _) (.slots _) ha made

namespace Machine

/-! ## States -/

/-- What is left to do evaluates ordered literals, and runs through ordered items. -/
def Task.Ordered : Task → Prop
  | .nodes ns => OrderedAll ns
  | .items _ _ _ values body => (∀ v ∈ values, v.Ordered) ∧ OrderedAll body
  | .leave => True
  | .fill _ args slots _ => (∀ a ∈ args, a.value.Ordered) ∧ ∀ slot ∈ slots, OrderedAll slot.content
  | .keep _ args _ _ slots _ =>
    (∀ a ∈ args, a.value.Ordered) ∧ ∀ slot ∈ slots, OrderedAll slot.content

structure Activation.Ordered (a : Activation) : Prop where
  scope : a.scope.Ordered
  tasks : ∀ task ∈ a.tasks, task.Ordered

/-- All templates that a machine is inside of are rendered in ordered scopes. -/
def State.Ordered : State → Prop
  | .running a callers _ => a.Ordered ∧ ∀ b ∈ callers, b.Ordered
  | .ended _ _ => True

section

variable {e : Engine} {files : Files}

theorem Activation.Ordered.first {a : Activation} (h : a.Ordered) {task : Task}
    (ht : task.Ordered) : (a.first task).Ordered :=
  ⟨h.scope, List.forall_mem_cons.2 ⟨ht, h.tasks⟩⟩

theorem Activation.start_ordered {a : Activation} (h : a.Ordered) {n : Node}
    (hn : n.Everywhere fun n => ∀ e ∈ n.exprs, e.Ordered) (autoescape : Bool) :
    (a.start autoescape n).Ordered := by
  have below {ns : List Node} (hns : ∀ m ∈ ns, m ∈ n.children) : OrderedAll ns :=
    fun m hm => hn.inside m (hns m hm)
  cases n with
  | text | «variable» | slotOutput | empty => exact ⟨h.scope, h.tasks⟩
  | conditional negated condition thenBranch elseBranch =>
    refine h.first (below fun m hm => ?_)
    split at hm
    · exact List.mem_append_left _ hm
    · exact List.mem_append_right _ hm
  | loop variableName iterable body empty =>
    have literals := hn.here iterable (by simp [Node.exprs])
    refine h.first ?_
    split
    · exact below fun m => List.mem_append_right _
    · exact ⟨(Expr.ordered_eval literals h.scope).items, below fun m => List.mem_append_left _⟩
  | invocation c tag args slots span =>
    refine h.first ⟨fun a ha => hn.here a.value (List.mem_map_of_mem ha), fun slot hslot => ?_⟩
    exact below fun m hm => List.mem_flatMap.2 ⟨slot, hslot, hm⟩
  | marker name content span line =>
    rw [Activation.start]
    split
    · exact ⟨h.scope, h.tasks⟩
    · exact h.first (below fun m hm => hm)

theorem call_ordered (components : e.AllComponents Component.KeepsOrder) {cache : Cache}
    (faithful : e.Faithful files cache) {a : Activation} {callers : List Activation}
    (h : State.Ordered (.running a callers cache)) {c : Component} (hc : c.KeepsOrder)
    (slots : SlotMap) {args : Data} (ha : args.All Value.Ordered) :
    (call e files a callers cache c slots args).Ordered := by
  unfold call
  split
  · trivial
  · rename_i data made
    obtain ⟨same, -⟩ := Engine.fetch_faithful faithful (c.templateName e.config.extension)
    split
    · trivial
    · rename_i t cache' found
      rw [found] at same
      obtain ⟨source, -, compiled⟩ := Engine.load_eq_ok_iff.1 same.symm
      have nodes := Template.CompiledWith.ordered ⟨e, _, source, components, compiled⟩
      split
      · trivial
      · exact ⟨⟨List.forall_mem_singleton.2 (hc slots args data ha made),
          List.forall_mem_singleton.2 nodes⟩, List.forall_mem_cons.2 h⟩

/-- A step keeps all scopes ordered. -/
theorem step_ordered (components : e.AllComponents Component.KeepsOrder) {s : State}
    (sound : s.IsSound e files Component.KeepsOrder) (h : s.Ordered) :
    (step e files s).Ordered := by
  fun_cases step e files s with
  | case1 | case2 => trivial
  | case3 =>
    obtain ⟨caller, callers⟩ := List.forall_mem_cons.1 h.2
    exact ⟨⟨caller.scope, caller.tasks⟩, callers⟩
  | case4 | case6 =>
    obtain ⟨⟨scope, tasks⟩, callers⟩ := h
    exact ⟨⟨scope, (List.forall_mem_cons.1 tasks).2⟩, callers⟩
  | case5 depth n ns tasks scope out =>
    obtain ⟨⟨ordered, pending⟩, callers⟩ := h
    obtain ⟨nodes, others⟩ := List.forall_mem_cons.1 pending
    obtain ⟨node, rest⟩ := List.forall_mem_cons.1 nodes
    have left : (Activation.mk depth (.nodes ns :: tasks) scope out).Ordered :=
      ⟨ordered, List.forall_mem_cons.2 ⟨rest, others⟩⟩
    exact ⟨Activation.start_ordered left node _, callers⟩
  | case7 =>
    obtain ⟨⟨scope, tasks⟩, callers⟩ := h
    obtain ⟨⟨items, body⟩, others⟩ := List.forall_mem_cons.1 tasks
    obtain ⟨item, items⟩ := List.forall_mem_cons.1 items
    refine ⟨⟨scope.push_loopFrame item _ _ _, ?_⟩, callers⟩
    -- the body is rendered once more while the loop is left to do
    exact List.forall_mem_cons.2 ⟨body, List.forall_mem_cons.2 ⟨trivial,
      List.forall_mem_cons.2 ⟨⟨items, body⟩, others⟩⟩⟩
  | case8 =>
    obtain ⟨⟨scope, tasks⟩, callers⟩ := h
    exact ⟨⟨scope.pop, (List.forall_mem_cons.1 tasks).2⟩, callers⟩
  | case9 =>
    obtain ⟨⟨scope, tasks⟩, callers⟩ := h
    obtain ⟨⟨literals, -⟩, others⟩ := List.forall_mem_cons.1 tasks
    obtain ⟨⟨component, -⟩, -⟩ := usesAll_cons.1 sound.current
    refine call_ordered components sound.cache ?_ component _ ?_
    · exact ⟨⟨scope, others⟩, callers⟩
    · exact Dict.All.ofList
        (List.forall_mem_map.2 fun a ha => Expr.ordered_eval (literals a ha) scope)
  | case10 =>
    obtain ⟨⟨scope, tasks⟩, callers⟩ := h
    obtain ⟨⟨literals, slots⟩, others⟩ := List.forall_mem_cons.1 tasks
    obtain ⟨slot, slots⟩ := List.forall_mem_cons.1 slots
    exact ⟨⟨scope, List.forall_mem_cons.2 ⟨slot,
      List.forall_mem_cons.2 ⟨⟨literals, slots⟩, others⟩⟩⟩, callers⟩
  | case11 =>
    obtain ⟨⟨scope, tasks⟩, callers⟩ := h
    obtain ⟨fill, others⟩ := List.forall_mem_cons.1 tasks
    exact ⟨⟨scope, List.forall_mem_cons.2 ⟨fill, others⟩⟩, callers⟩

/-- So do all steps of a run. -/
theorem steps_ordered (components : e.AllComponents Component.KeepsOrder) {s : State}
    (sound : s.IsSound e files Component.KeepsOrder) (h : s.Ordered) (n : Nat) :
    (steps e files n s).Ordered := by
  induction n generalizing s with
  | zero => exact h
  | succ n ih => exact ih (step_sound components sound) (step_ordered components sound h)

end

end Machine

namespace Engine

open Machine

/-- If components keep order, every loop that a rendering with ordered variables comes to, after any
calls, stands in an ordered scope, and what it runs through has ordered literals. -/
theorem loops_ordered {e : Engine} (components : e.AllComponents Component.KeepsOrder)
    (files : Files) (caching : Bool) (calls : List Call) :
    let last := (answers files (e.fresh caching) calls).2
    ∀ t data, t.CompiledWith Component.KeepsOrder → data.All Value.Ordered →
      ∀ n depth variableName iterable body instead ns tasks scope out callers cache,
        steps last files n (start last t data) = .running
          ⟨depth, .nodes (.loop variableName iterable body instead :: ns) :: tasks, scope, out⟩
          callers cache →
        scope.Ordered ∧ iterable.Ordered := by
  intro last t data compiled ordered n depth variableName iterable body instead ns tasks scope out
    callers cache reached
  obtain ⟨inPlay, sound⟩ := answers_sound components files caching calls compiled data
  have begins : (start last t data).Ordered :=
    ⟨⟨List.forall_mem_singleton.2 ordered, List.forall_mem_singleton.2 compiled.ordered⟩,
      List.forall_mem_nil _⟩
  have h := steps_ordered inPlay sound begins n
  rw [reached] at h
  obtain ⟨nodes, -⟩ := List.forall_mem_cons.1 h.1.tasks
  obtain ⟨loop, -⟩ := List.forall_mem_cons.1 nodes
  exact ⟨h.1.scope, loop.here iterable (by simp [Node.exprs])⟩

end Engine

end SlotTemplate

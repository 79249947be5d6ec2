import SlotTemplate.Proofs.Rendering.Depth

/-!
# Rendering step by step

A machine renders a template one step at a time. It keeps a stack of the templates that it is inside
of, each with its scope, what it has written so far and what it has still to do. A step does not ask
how many steps are left: what stops templates that invoke each other is that a component is not
invoked from the greatest depth.

* `step`: one step of the machine;
* `step_within`: templates nest no deeper than the limit;
* `does_nodes`: the machine comes to what nodes render to, by induction on the levels that are left
  and, at each level, on the node;
* `Engine.renderTemplate_ends`: the machine ends, with the result of the rendering, and never nests
  templates deeper than the limit.
-/

namespace SlotTemplate.Machine

open Rendering

/-- Something that is left to do inside one template. -/
inductive Task where
  | nodes (ns : List Node)
  /-- The rest of a loop, from an index on. -/
  | items (variableName : String) (total index : Nat) (items : List Value) (body : List Node)
  /-- Drops the innermost frame of the scope. -/
  | leave
  /-- The slots of an invocation that are not filled yet, and then the invocation. -/
  | fill (c : Component) (args : List Argument) (slots : List Slot) (filled : SlotMap)
  /-- Keeps what is written as the text of a slot; `before` was written before it. -/
  | keep (c : Component) (args : List Argument) (name before : String) (slots : List Slot)
    (filled : SlotMap)

/-- The rendering of one template. -/
structure Activation where
  /-- The number of templates around this one. -/
  depth : Nat
  tasks : List Task
  scope : Scope
  out : String

inductive State where
  /-- A template is rendered; the innermost of those around it comes first. -/
  | running (current : Activation) (callers : List Activation) (cache : Cache)
  | ended (result : Except RenderError String) (cache : Cache)

namespace Activation

def write (a : Activation) (text : String) : Activation := { a with out := a.out ++ text }

/-- Does something before all that is left to do. -/
def first (a : Activation) (task : Task) : Activation := { a with tasks := task :: a.tasks }

/-- Starts on a node. -/
def start (a : Activation) (autoescape : Bool) : Node → Activation
  | .text s => a.write s
  | .variable e => a.write ((e.eval a.scope).render autoescape)
  | .conditional negated condition thenBranch elseBranch =>
    a.first (.nodes
      (if (condition.eval a.scope).isTruthy != negated then thenBranch else elseBranch))
  | .loop variableName iterable body empty =>
    let items := (iterable.eval a.scope).items
    a.first (if items.isEmpty then .nodes empty
      else .items variableName items.length 0 items body)
  | .invocation c _ args slots _ => a.first (.fill c args slots SlotMap.empty)
  | .marker name content _ _ =>
    match filledSlot? a.scope name with
    | some text => a.write text
    | none => a.first (.nodes content)
  | .slotOutput name => a.write ((filledSlot? a.scope name).getD "")
  | .empty => a

theorem start_depth (a : Activation) (autoescape : Bool) (n : Node) :
    (a.start autoescape n).depth = a.depth := by
  cases n with
  | marker =>
    rw [start]
    split <;> rfl
  | _ => rfl

end Activation

variable (e : Engine) (files : Files)

/-- Invokes a component from a template. -/
def call (a : Activation) (callers : List Activation) (cache : Cache) (c : Component)
    (slots : SlotMap) (args : Data) : State :=
  match c.context slots args with
  | .error cause => .ended (.error (.validation c.name cause)) cache
  | .ok data =>
    match e.fetch files (c.templateName e.config.extension) cache with
    | (.error err, cache) => .ended (.error err) cache
    | (.ok t, cache) =>
      if a.depth + 1 > e.config.maxDepth then
        .ended (.error (.recursionLimit t.name e.config.maxDepth)) cache
      else .running ⟨a.depth + 1, [.nodes t.nodes], .ofData data, ""⟩ (a :: callers) cache

/-- One step. -/
def step : State → State
  | .ended result cache => .ended result cache
  | .running ⟨_, [], _, out⟩ [] cache => .ended (.ok out) cache
  | .running ⟨_, [], _, out⟩ (caller :: callers) cache => .running (caller.write out) callers cache
  | .running ⟨depth, .nodes [] :: tasks, scope, out⟩ callers cache =>
    .running ⟨depth, tasks, scope, out⟩ callers cache
  | .running ⟨depth, .nodes (n :: ns) :: tasks, scope, out⟩ callers cache =>
    .running (Activation.start ⟨depth, .nodes ns :: tasks, scope, out⟩ e.config.autoescape n)
      callers cache
  | .running ⟨depth, .items _ _ _ [] _ :: tasks, scope, out⟩ callers cache =>
    .running ⟨depth, tasks, scope, out⟩ callers cache
  | .running ⟨depth, .items variableName total index (item :: items) body :: tasks, scope, out⟩
      callers cache =>
    .running ⟨depth,
      .nodes body :: .leave :: .items variableName total (index + 1) items body :: tasks,
      scope.push (loopFrame variableName index total item), out⟩ callers cache
  | .running ⟨depth, .leave :: tasks, scope, out⟩ callers cache =>
    .running ⟨depth, tasks, scope.pop, out⟩ callers cache
  | .running ⟨depth, .fill c args [] filled :: tasks, scope, out⟩ callers cache =>
    call e files ⟨depth, tasks, scope, out⟩ callers cache c filled
      (Dict.ofList (args.map fun a => (a.name, a.value.eval scope)))
  | .running ⟨depth, .fill c args (⟨name, content⟩ :: slots) filled :: tasks, scope, out⟩
      callers cache =>
    .running ⟨depth, .nodes content :: .keep c args name out slots filled :: tasks, scope, ""⟩
      callers cache
  | .running ⟨depth, .keep c args name before slots filled :: tasks, scope, out⟩ callers cache =>
    .running ⟨depth, .fill c args slots (filled.insert name out) :: tasks, scope, before⟩ callers
      cache

def steps : Nat → State → State
  | 0, s => s
  | n + 1, s => steps n (step e files s)

/-- A machine that is about to render a template. -/
def start (t : Template) (data : Data) : State :=
  .running ⟨0, [.nodes t.nodes], .ofData data, ""⟩ [] e.cache

/-- How many templates are being rendered inside the outermost one. -/
def State.nesting : State → Nat
  | .running _ callers _ => callers.length
  | .ended _ _ => 0

/-! ## Depth -/

/-- The depth of each of the templates inside one another is the number of those around it. -/
def Nested : List Activation → Prop
  | [] => True
  | a :: callers => a.depth = callers.length ∧ Nested callers

/-- Templates nest no deeper than a limit. -/
def State.Within (limit : Nat) : State → Prop
  | .running a callers _ => Nested (a :: callers) ∧ a.depth ≤ limit
  | .ended _ _ => True

section

variable {e : Engine} {files : Files}

theorem State.Within.nesting_le {limit : Nat} {s : State} (h : s.Within limit) :
    s.nesting ≤ limit := by
  cases s with
  | running a callers cache =>
    obtain ⟨⟨depth, -⟩, le⟩ := h
    rwa [depth] at le
  | ended => exact Nat.zero_le limit

theorem call_within {a : Activation} {callers : List Activation}
    (depth : a.depth = callers.length) (nested : Nested callers) (cache : Cache) (c : Component)
    (slots : SlotMap) (args : Data) :
    (call e files a callers cache c slots args).Within e.config.maxDepth := by
  unfold call
  split
  · trivial
  · split
    · trivial
    · split
      · trivial
      · rename_i within
        refine ⟨⟨?_, depth, nested⟩, by simpa using within⟩
        rw [depth, List.length_cons]

theorem step_within {s : State} (h : s.Within e.config.maxDepth) :
    (step e files s).Within e.config.maxDepth := by
  fun_cases step e files s with
  | case1 | case2 => trivial
  | case3 =>
    -- the depth of the caller is one less
    obtain ⟨⟨depth, nested⟩, le⟩ := h
    have caller := nested.1
    rw [List.length_cons] at depth
    simp only at depth le
    refine ⟨nested, ?_⟩
    simp only [Activation.write]
    omega
  | case5 =>
    obtain ⟨⟨depth, nested⟩, le⟩ := h
    rw [State.Within, Nested, Activation.start_depth]
    exact ⟨⟨depth, nested⟩, le⟩
  | case9 =>
    refine call_within ?_ ?_ _ _ _ _
    · exact h.1.1
    · exact h.1.2
  | case4 | case6 | case7 | case8 | case10 | case11 => exact ⟨⟨h.1.1, h.1.2⟩, h.2⟩

theorem steps_within {s : State} (h : s.Within e.config.maxDepth) (n : Nat) :
    (steps e files n s).Within e.config.maxDepth := by
  induction n generalizing s with
  | zero => exact h
  | succ n ih => exact ih (step_within h)

end

/-! ## Progress -/

/-- The machine comes from one state to another. -/
def Reaches (s s' : State) : Prop := ∃ n, steps e files n s = s'

/-- The machine is inside a template; the state of the template's rendering is that of a pass. -/
def inside (depth : Nat) (tasks : List Task) (callers : List Activation) (p : Pass) : State :=
  .running ⟨depth, tasks, p.scope, p.out⟩ callers p.cache

/-- The state in which a step of rendering leaves the machine. -/
def after (depth : Nat) (tasks : List Task) (callers : List Activation) :
    Except RenderError Unit × Pass → State
  | (.ok _, p) => inside depth tasks callers p
  | (.error err, p) => .ended (.error err) p.cache

/-- Tasks come to what a step of rendering comes to, whatever is left to do after them. -/
def Does (depth : Nat) (callers : List Activation) (tasks : List Task) (m : Rendering Unit) :
    Prop :=
  ∀ rest p, Reaches e files (inside depth (tasks ++ rest) callers p)
    (after depth rest callers (m p))

/-- A node that is started on comes to what it renders to. -/
def Starts (depth : Nat) (callers : List Activation) (invoke : Invoke) (n : Node) : Prop :=
  ∀ rest p, Reaches e files
    (.running (Activation.start ⟨depth, rest, p.scope, p.out⟩ e.config.autoescape n) callers
      p.cache)
    (after depth rest callers (n.render e.config.autoescape invoke p))

/-- A call comes to what an invocation renders to. -/
def Calls (depth : Nat) (callers : List Activation) (invoke : Invoke) : Prop :=
  ∀ c slots args rest p, Reaches e files
    (call e files ⟨depth, rest, p.scope, p.out⟩ callers p.cache c slots args)
    (after depth rest callers (invoke c slots args p))

section

variable {e : Engine} {files : Files}

namespace Reaches

variable {s s' s'' : State}

theorem refl : Reaches e files s s := ⟨0, rfl⟩

theorem of_step (h : Reaches e files (step e files s) s') : Reaches e files s s' := by
  obtain ⟨n, h⟩ := h
  exact ⟨n + 1, h⟩

theorem trans (h : Reaches e files s s') (h' : Reaches e files s' s'') :
    Reaches e files s s'' := by
  obtain ⟨n, h⟩ := h
  induction n generalizing s with
  | zero =>
    cases h
    exact h'
  | succ n ih => exact of_step (ih h)

end Reaches

variable {depth : Nat} {callers : List Activation} {invoke : Invoke}

theorem does_nodes_of_starts {ns : List Node}
    (h : ∀ n ∈ ns, Starts e files depth callers invoke n) :
    Does e files depth callers [.nodes ns] (renderAll e.config.autoescape invoke ns) := by
  induction ns with
  | nil => exact fun rest p => .of_step .refl
  | cons n ns ih =>
    obtain ⟨here, there⟩ := List.forall_mem_cons.1 h
    intro rest p
    rw [renderAll, bind_run]
    refine .trans (.of_step (here (.nodes ns :: rest) p)) ?_
    rcases n.render e.config.autoescape invoke p with ⟨err | _, q⟩
    · exact .refl
    · exact ih there rest q

theorem does_items {body : List Node} {variableName : String} {total : Nat}
    (h : Does e files depth callers [.nodes body] (renderAll e.config.autoescape invoke body))
    (index : Nat) (items : List Value) :
    Does e files depth callers [.items variableName total index items body]
      (forItems variableName total (renderAll e.config.autoescape invoke body) index items) := by
  induction items generalizing index with
  | nil => exact fun rest p => .of_step .refl
  | cons item items ih =>
    intro rest p
    let framed := { p with scope := p.scope.push (loopFrame variableName index total item) }
    have run := h (.leave :: .items variableName total (index + 1) items body :: rest) framed
    rw [forItems, bind_run, withFrame]
    refine .trans (.of_step run) ?_
    rcases renderAll e.config.autoescape invoke body framed with ⟨err | _, q⟩
    · exact .refl
    · exact .of_step (ih (index + 1) rest { q with scope := q.scope.pop })

theorem does_fill {c : Component} {args : List Argument} {slots : List Slot}
    (calls : Calls e files depth callers invoke)
    (h : ∀ slot ∈ slots, Does e files depth callers [.nodes slot.content]
      (renderAll e.config.autoescape invoke slot.content)) (filled : SlotMap) :
    Does e files depth callers [.fill c args slots filled] (do
      let filled ← renderSlots e.config.autoescape invoke slots filled
      let scope := (← get).scope
      invoke c filled (Dict.ofList (args.map fun a => (a.name, a.value.eval scope)))) := by
  induction slots generalizing filled with
  | nil => exact fun rest p => .of_step (calls c filled _ rest p)
  | cons slot slots ih =>
    obtain ⟨here, there⟩ := List.forall_mem_cons.1 h
    obtain ⟨name, content⟩ := slot
    intro rest p
    have run := here (.keep c args name p.out slots filled :: rest) { p with out := "" }
    refine .trans (.of_step run) ?_
    simp only [renderSlots, Slot.render, bind_assoc, pure_bind]
    rw [bind_run, capture]
    rcases renderAll e.config.autoescape invoke content { p with out := "" } with ⟨err | _, q⟩
    · exact .refl
    · exact .of_step (ih there (filled.insert name q.out) rest { q with out := p.out })

theorem starts (calls : Calls e files depth callers invoke) (node : Node) :
    Starts e files depth callers invoke node := by
  induction node using Node.induction with
  | step node ih =>
    have below {ns : List Node} (sub : ∀ n ∈ ns, n ∈ node.children) :
        Does e files depth callers [.nodes ns] (renderAll e.config.autoescape invoke ns) :=
      does_nodes_of_starts fun n hn => ih n (sub n hn)
    intro rest p
    cases node with
    | text s =>
      rw [Node.render]
      exact .refl
    | «variable» x =>
      rw [Node.render]
      exact .refl
    | conditional negated condition a b =>
      have run : (Node.conditional negated condition a b).render e.config.autoescape invoke p =
          renderAll e.config.autoescape invoke
            (if (condition.eval p.scope).isTruthy != negated then a else b) p := by
        simp only [Node.render, bind_run, eval_run]
        cases (condition.eval p.scope).isTruthy != negated <;> rfl
      rw [run]
      refine below (fun n hn => ?_) rest p
      split at hn
      · exact List.mem_append_left b hn
      · exact List.mem_append_right a hn
    | loop variableName iterable body empty =>
      simp only [Node.render, bind_run, eval_run, Activation.start]
      split
      · exact below (fun n => List.mem_append_right body) rest p
      · exact does_items (below fun n => List.mem_append_left empty) 0 _ rest p
    | invocation c tag args slots span =>
      rw [Node.render]
      exact does_fill calls (fun slot hs => below fun n hn => List.mem_flatMap.2 ⟨slot, hs, hn⟩)
        SlotMap.empty rest p
    | marker name content span line =>
      have shown : Does e files depth callers [.nodes content]
          (renderAll e.config.autoescape invoke content) := below fun n => id
      simp only [Node.render, bind_run, get_run, Activation.start]
      cases filledSlot? p.scope name with
      | some text => exact .refl
      | none => exact shown rest p
    | slotOutput name =>
      rw [Node.render]
      exact .refl
    | empty =>
      rw [Node.render]
      exact .refl

theorem does_nodes_of_calls
    (calls : Calls e files depth callers (e.invoke files (e.renderNested files depth)))
    (ns : List Node) : Does e files depth callers [.nodes ns] (e.renderNodes files depth ns) := by
  rw [Engine.renderNodes_eq]
  exact does_nodes_of_starts fun n _ => starts calls n

/-- A call comes to what an invocation renders to. It leads one level deeper or fails, so that the
levels that are left carry the induction. -/
theorem calls (e : Engine) (files : Files) (depth : Nat) (callers : List Activation) :
    Calls e files depth callers (e.invoke files (e.renderNested files depth)) := by
  intro c slots args rest p
  rw [call, Engine.invoke]
  cases c.context slots args with
  | error cause => exact .refl
  | ok data =>
    simp only [bind_run, Engine.getTemplate]
    rcases e.fetch files (c.templateName e.config.extension) p.cache with ⟨err | t, cache⟩
    · exact .refl
    · simp only [Engine.renderNested]
      split
      · exact .refl
      · have inner := does_nodes_of_calls
          (calls e files (depth + 1) (⟨depth, rest, p.scope, p.out⟩ :: callers)) t.nodes []
          ⟨.ofData data, "", cache⟩
        refine inner.trans ?_
        simp only [isolate]
        rcases e.renderNodes files (depth + 1) t.nodes ⟨.ofData data, "", cache⟩ with ⟨err | _, q⟩
        · exact .refl
        · exact .of_step .refl
termination_by e.config.maxDepth - depth
decreasing_by omega

theorem does_nodes (e : Engine) (files : Files) (depth : Nat) (callers : List Activation)
    (ns : List Node) : Does e files depth callers [.nodes ns] (e.renderNodes files depth ns) :=
  does_nodes_of_calls (calls e files depth callers) ns

/-- The machine ends with what a template renders to. -/
theorem reaches_ended (e : Engine) (files : Files) (t : Template) (data : Data) :
    Reaches e files (start e t data)
      (.ended (e.renderTemplate files t data).1 (e.renderTemplate files t data).2.cache) := by
  have run := does_nodes e files 0 [] t.nodes [] ⟨.ofData data, "", e.cache⟩
  refine run.trans ?_
  rw [Engine.renderTemplate_depth, Rendering.isolate]
  rcases e.renderNodes files 0 t.nodes ⟨.ofData data, "", e.cache⟩ with ⟨err | _, q⟩
  · exact .refl
  · exact .of_step .refl

end

end SlotTemplate.Machine

namespace SlotTemplate

open Machine

/-- The rendering of any template with any data ends, with an output or an error, whatever templates
the components have that it invokes. While it goes on, templates never nest deeper inside the
outermost one than the limit of the engine. -/
theorem Engine.renderTemplate_ends (e : Engine) (files : Files) (t : Template) (data : Data) :
    (∃ n, steps e files n (start e t data) =
      .ended (e.renderTemplate files t data).1 (e.renderTemplate files t data).2.cache) ∧
    ∀ n, (steps e files n (start e t data)).nesting ≤ e.config.maxDepth := by
  refine ⟨reaches_ended e files t data, ?_⟩
  have within : (start e t data).Within e.config.maxDepth := ⟨⟨rfl, trivial⟩, Nat.zero_le _⟩
  exact fun n => (steps_within within n).nesting_le

end SlotTemplate

import SlotTemplate.Node

/-!
# Properties of all nodes of a tree

* `Node.induction`: what follows for a node from the nodes right below it holds of all nodes;
* `Node.Throughout`: a property holds of a node and of all nodes that are reached from it;
* `Node.all_iff_everywhere`: whether it holds of all nodes below a node can be computed.
-/

namespace SlotTemplate

namespace Node

/-- The nodes right below a node; those in the slots of an invocation are not counted. -/
def parts : Node → List Node
  | .conditional _ _ thenBranch elseBranch => thenBranch ++ elseBranch
  | .loop _ _ body instead => body ++ instead
  | .marker _ content _ _ => content
  | _ => []

/-- The nodes right below a node. -/
def children : Node → List Node
  | .invocation _ _ _ slots _ => slots.flatMap Slot.content
  | node => node.parts

/-- The expressions that stand in a node itself. -/
def exprs : Node → List Expr
  | .variable e => [e]
  | .conditional _ e _ _ => [e]
  | .loop _ e _ _ => [e]
  | .invocation _ _ args _ _ => args.map Argument.value
  | _ => []

/-- The component that a node invokes, if it is an invocation. -/
def component? : Node → Option Component
  | .invocation c _ _ _ _ => some c
  | _ => none

/-- What follows for a node from the nodes right below it holds of all nodes. -/
theorem induction {P : Node → Prop} (step : ∀ node, (∀ n ∈ node.children, P n) → P node)
    (node : Node) : P node := by
  have leaf (node : Node) (childless : node.children = []) : P node :=
    step node (by simp [childless])
  refine @Node.rec P (fun slot => ∀ n ∈ slot.content, P n) (fun ns => ∀ n ∈ ns, P n)
    (fun slots => ∀ slot ∈ slots, ∀ n ∈ slot.content, P n)
    (fun _ => leaf _ rfl) (fun _ => leaf _ rfl) ?conditional ?loop ?invocation
    (fun _ _ _ _ inside => step _ inside) (fun _ => leaf _ rfl) (leaf _ rfl)
    (fun _ _ inside => inside) (by simp) (fun _ _ h hs => List.forall_mem_cons.2 ⟨h, hs⟩) (by simp)
    (fun _ _ h hs => List.forall_mem_cons.2 ⟨h, hs⟩) node
  case conditional | loop =>
    intro _ _ first second firstInside secondInside
    exact step _ fun n hn => (List.mem_append.1 hn).elim (firstInside n) (secondInside n)
  case invocation =>
    intro _ _ _ slots _ inside
    refine step _ fun n hn => ?_
    obtain ⟨slot, hs, hn⟩ := List.mem_flatMap.1 hn
    exact inside slot hs n hn

/-- A property of a node and of all that are reached from it by `next`. -/
inductive Throughout (next : Node → List Node) (P : Node → Prop) : Node → Prop where
  | intro {node : Node} (here : P node) (inside : ∀ n ∈ next node, Throughout next P n) :
      Throughout next P node

/-- A property of a node and of all nodes below it. -/
abbrev Everywhere (P : Node → Prop) (node : Node) : Prop := node.Throughout children P

namespace Throughout

variable {next : Node → List Node} {P Q : Node → Prop} {node : Node}

theorem here (h : node.Throughout next P) : P node := by
  cases h with
  | intro here _ => exact here

theorem inside (h : node.Throughout next P) : ∀ n ∈ next node, n.Throughout next P := by
  cases h with
  | intro _ inside => exact inside

theorem iff_inside :
    node.Throughout next P ↔ P node ∧ ∀ n ∈ next node, n.Throughout next P :=
  ⟨fun h => ⟨h.here, h.inside⟩, fun h => .intro h.1 h.2⟩

theorem mono (h : node.Throughout next P) (imp : ∀ n, P n → Q n) : node.Throughout next Q := by
  induction h with
  | intro here _ ih => exact .intro (imp _ here) ih

theorem and (h : node.Throughout next P) (h' : node.Throughout next Q) :
    node.Throughout next fun n => P n ∧ Q n := by
  induction h with
  | intro here _ ih => exact .intro ⟨here, h'.here⟩ fun n hn => ih n hn (h'.inside n hn)

/-- A property of a node and of all nodes below it, without those in the slots of invocations. -/
theorem parts (h : node.Everywhere P) : node.Throughout Node.parts P := by
  induction h with
  | @intro node here _ ih =>
    refine .intro here fun n hn => ih n ?_
    cases node with
    | invocation => cases hn
    | _ => exact hn

end Throughout

theorem everywhere_of_forall {P : Node → Prop} (h : ∀ n, P n) (node : Node) :
    node.Everywhere P := by
  induction node using Node.induction with
  | step node ih => exact .intro (h node) ih

mutual

/-- Whether a check succeeds on a node and on all nodes below it. -/
def all (p : Node → Bool) : Node → Bool
  | .conditional negated e a b => p (.conditional negated e a b) && allNodes p a && allNodes p b
  | .loop name e a b => p (.loop name e a b) && allNodes p a && allNodes p b
  | .invocation c tag args slots span => p (.invocation c tag args slots span) && allSlots p slots
  | .marker name content span line => p (.marker name content span line) && allNodes p content
  | node => p node

def allNodes (p : Node → Bool) : List Node → Bool
  | [] => true
  | node :: nodes => node.all p && allNodes p nodes

def allSlots (p : Node → Bool) : List Slot → Bool
  | [] => true
  | ⟨_, content⟩ :: slots => allNodes p content && allSlots p slots

end

theorem allNodes_iff {p : Node → Bool} {ns : List Node} :
    allNodes p ns = true ↔ ∀ n ∈ ns, n.all p = true := by
  induction ns with
  | nil => simp [allNodes]
  | cons n ns ih => simp [allNodes, ih]

theorem allSlots_iff {p : Node → Bool} {slots : List Slot} :
    allSlots p slots = true ↔ ∀ n ∈ slots.flatMap Slot.content, n.all p = true := by
  induction slots with
  | nil => simp [allSlots]
  | cons slot slots ih =>
    obtain ⟨name, content⟩ := slot
    rw [allSlots, Bool.and_eq_true, allNodes_iff, ih, List.flatMap_cons, List.forall_mem_append]

theorem all_iff_children {p : Node → Bool} {node : Node} :
    node.all p = true ↔ p node = true ∧ ∀ n ∈ node.children, n.all p = true := by
  cases node with
  | text | «variable» | slotOutput | empty => simp [all, children, parts]
  | conditional | loop =>
    simp only [all, Bool.and_eq_true, allNodes_iff, and_assoc, children, parts,
      List.forall_mem_append]
  | invocation => simp only [all, Bool.and_eq_true, allSlots_iff, children]
  | marker => simp only [all, Bool.and_eq_true, allNodes_iff, children, parts]

theorem all_iff_everywhere {p : Node → Bool} {P : Node → Prop} (hp : ∀ n, p n = true ↔ P n)
    (node : Node) : node.all p = true ↔ node.Everywhere P := by
  induction node using Node.induction with
  | step node ih =>
    rw [all_iff_children, hp]
    constructor
    · rintro ⟨here, inside⟩
      exact .intro here fun n hn => (ih n hn).1 (inside n hn)
    · intro h
      exact ⟨h.here, fun n hn => (ih n hn).2 (h.inside n hn)⟩

instance {P : Node → Prop} [DecidablePred P] : DecidablePred (Everywhere P) := fun node =>
  decidable_of_iff (node.all fun n => decide (P n)) (all_iff_everywhere (by simp) node)

end Node

end SlotTemplate

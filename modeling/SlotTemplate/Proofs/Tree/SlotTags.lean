import SlotTemplate.Proofs.Relocation
import SlotTemplate.Proofs.Tree

/-!
# Slot tags written out

The place of a slot can be written out as a condition on the variable `slots`, and the place of a
slot without content as a lookup in it. What stands in the bodies of invocations stays as it is.

* `Node.writeOut`: a node with its slot tags written out, wherever it stands;
* `Template.SlotAlike`: templates that are the same with all their slot tags written out;
* `leavesSlots_writeOut_iff`: they bind the same variables.
-/

namespace SlotTemplate

/-- The lookup of a slot in the variable `slots`. -/
def slotLookup (name : String) : Expr := ⟨.lookup "slots" [name], [], ⟨0, 0⟩⟩

mutual

def Node.writeOut : Node → Node
  | .text s => .text s
  | .variable e => .variable (e.relocate .erased)
  | .conditional negated e a b =>
    .conditional negated (e.relocate .erased) (writeOutAll a) (writeOutAll b)
  | .loop name e body instead =>
    .loop name (e.relocate .erased) (writeOutAll body) (writeOutAll instead)
  | .invocation c tag args slots span => (Node.invocation c tag args slots span).relocate .erased
  | .marker name content _ _ =>
    .conditional false (slotLookup name) [.variable (slotLookup name)] (writeOutAll content)
  | .slotOutput name => .variable (slotLookup name)
  | .empty => .empty

def writeOutAll : List Node → List Node
  | [] => []
  | node :: nodes => node.writeOut :: writeOutAll nodes

end

theorem writeOutAll_eq_map (ns : List Node) : writeOutAll ns = ns.map Node.writeOut := by
  induction ns with
  | nil => rfl
  | cons n ns ih => rw [writeOutAll, ih, List.map_cons]

/-- Nodes are written out alike wherever they stand. -/
theorem Node.writeOut_relocate (r : Relocation) (node : Node) :
    (node.relocate r).writeOut = node.writeOut := by
  induction node using Node.induction with
  | step node ih =>
    have inside {ns : List Node} (below : ∀ n ∈ ns, n ∈ node.children) :
        writeOutAll (relocateAll r ns) = writeOutAll ns := by
      rw [relocateAll_eq_map, writeOutAll_eq_map, writeOutAll_eq_map, List.map_map]
      exact List.map_congr_left fun n hn => ih n (below n hn)
    cases node with
    | text | slotOutput | empty => rfl
    | «variable» e => simp only [Node.relocate, Node.writeOut, Expr.erased_relocate]
    | conditional negated e a b | loop name e a b =>
      have first := inside fun n => List.mem_append_left b
      have second := inside fun n => List.mem_append_right a
      simp only [Node.relocate, Node.writeOut, Expr.erased_relocate, first, second]
    | invocation c tag args slots span =>
      have same := Node.erased_relocate r (.invocation c tag args slots span)
      simpa only [Node.writeOut, Node.relocate] using same
    | marker name content span line =>
      have same : writeOutAll (relocateAll r content) = writeOutAll content := inside fun n => id
      simp only [Node.relocate, Node.writeOut, same]

/-- Nodes that say the same at other places are written out alike. -/
theorem writeOutAll_of_relocate {ns ns' : List Node}
    (same : ns.map (Node.relocate .erased) = ns'.map (Node.relocate .erased)) :
    writeOutAll ns = writeOutAll ns' := by
  have moved (ns : List Node) : (ns.map (Node.relocate .erased)).map Node.writeOut =
      writeOutAll ns := by
    rw [List.map_map, writeOutAll_eq_map]
    exact List.map_congr_left fun n _ => n.writeOut_relocate .erased
  rw [← moved, same, moved]

/-! ## Templates -/

/-- A node is no loop that binds the variable `slots`. -/
def Node.LeavesSlots : Node → Prop
  | .loop name _ _ _ => name ≠ "slots"
  | _ => True

/-- No loop binds the variable `slots`; those in the bodies of invocations are not counted. -/
def Template.LeavesSlots (t : Template) : Prop :=
  ∀ n ∈ t.nodes, n.Throughout Node.parts Node.LeavesSlots

/-- The names that a node gives to values: to the items of a loop, or to arguments. -/
def Node.givenNames : Node → List String
  | .loop name _ _ _ => [name]
  | .invocation _ _ args _ _ => args.map Argument.name
  | _ => []

/-- A node gives the name `slots` to nothing. -/
def Node.SparesSlots (node : Node) : Prop := "slots" ∉ node.givenNames

instance : DecidablePred Node.SparesSlots := fun node =>
  inferInstanceAs (Decidable ("slots" ∉ node.givenNames))

/-- No node of a template gives the name `slots` to anything. -/
def Template.SparesSlots (t : Template) : Prop := ∀ n ∈ t.nodes, n.Everywhere Node.SparesSlots

instance : DecidablePred Template.SparesSlots := fun t =>
  inferInstanceAs (Decidable (∀ n ∈ t.nodes, n.Everywhere Node.SparesSlots))

theorem Template.SparesSlots.leavesSlots {t : Template} (h : t.SparesSlots) : t.LeavesSlots := by
  refine fun n hn => (h n hn).parts.mono fun n spares => ?_
  cases n with
  | loop => exact (List.ne_of_not_mem_cons spares).symm
  | _ => trivial

/-- Templates that are the same once their slot tags are written out, wherever their nodes stand. -/
structure Template.SlotAlike (t t' : Template) : Prop where
  name : t.name = t'.name
  nodes : writeOutAll t.nodes = writeOutAll t'.nodes

theorem Template.SlotAlike.trans {t t' t'' : Template} (h : t.SlotAlike t')
    (h' : t'.SlotAlike t'') : t.SlotAlike t'' :=
  ⟨h.name.trans h'.name, h.nodes.trans h'.nodes⟩

/-- A node binds the same variables once its slot tags are written out. -/
theorem Node.leavesSlots_writeOut_iff (node : Node) :
    node.writeOut.Throughout Node.parts Node.LeavesSlots ↔
      node.Throughout Node.parts Node.LeavesSlots := by
  induction node using Node.induction with
  | step node ih =>
    have inside {ns : List Node} (below : ∀ n ∈ ns, n ∈ node.children) :
        (∀ n ∈ writeOutAll ns, n.Throughout Node.parts Node.LeavesSlots) ↔
          ∀ n ∈ ns, n.Throughout Node.parts Node.LeavesSlots := by
      rw [writeOutAll_eq_map, List.forall_mem_map]
      exact forall₂_congr fun n hn => ih n (below n hn)
    have leaf {n : Node} (leaves : n.LeavesSlots) (partless : n.parts = []) :
        n.Throughout Node.parts Node.LeavesSlots := .intro leaves (by simp [partless])
    cases node with
    | text | «variable» | slotOutput | empty | invocation =>
      exact iff_of_true (leaf trivial rfl) (leaf trivial rfl)
    | conditional negated e a b | loop name e a b =>
      have first := inside fun n => List.mem_append_left b
      have second := inside fun n => List.mem_append_right a
      rw [Throughout.iff_inside, Throughout.iff_inside]
      refine and_congr Iff.rfl ?_
      simp only [Node.writeOut, Node.parts, List.forall_mem_append, first, second]
    | marker name content span line =>
      have same : (∀ n ∈ writeOutAll content, n.Throughout Node.parts Node.LeavesSlots) ↔
          ∀ n ∈ content, n.Throughout Node.parts Node.LeavesSlots := inside fun n => id
      have shown : (Node.variable (slotLookup name)).Throughout Node.parts Node.LeavesSlots :=
        leaf trivial rfl
      rw [Throughout.iff_inside, Throughout.iff_inside]
      refine and_congr Iff.rfl ?_
      simp only [Node.writeOut, Node.parts, List.forall_mem_append, same,
        List.forall_mem_singleton, shown, true_and]

theorem Template.SlotAlike.leavesSlots {t t' : Template} (h : t.SlotAlike t')
    (leaves : t.LeavesSlots) : t'.LeavesSlots := by
  have written (ns : List Node) :
      (∀ n ∈ writeOutAll ns, n.Throughout Node.parts Node.LeavesSlots) ↔
        ∀ n ∈ ns, n.Throughout Node.parts Node.LeavesSlots := by
    rw [writeOutAll_eq_map, List.forall_mem_map]
    exact forall₂_congr fun n _ => n.leavesSlots_writeOut_iff
  have before := (written t.nodes).2 leaves
  rw [h.nodes] at before
  exact (written t'.nodes).1 before

end SlotTemplate

import SlotTemplate.Proofs.Relocation

/-!
# Trees with marked variables

The filter `safe` behind the expressions of all variables. The expressions of conditions, loops and
arguments stay as they are.

* `Node.markSafe`: a node with marked variables;
* `recasts_markSafe`: a body is divided into the same slots whether its variables are marked or not.
-/

namespace SlotTemplate

/-- An expression with the filter `safe` behind it, where it stands if it is written there. -/
def Expr.markSafe (e : Expr) : Expr :=
  let stop := e.span.stop + 5
  ⟨e.primary, e.filters ++ [⟨.safe, ⟨e.span.stop, stop⟩⟩], ⟨e.span.start, stop⟩⟩

mutual

def Node.markSafe : Node → Node
  | .text s => .text s
  | .variable e => .variable e.markSafe
  | .conditional negated e a b => .conditional negated e (markSafeAll a) (markSafeAll b)
  | .loop name e body instead => .loop name e (markSafeAll body) (markSafeAll instead)
  | .invocation c tag args slots span => .invocation c tag args (markSafeSlots slots) span
  | .marker name content span line => .marker name (markSafeAll content) span line
  | .slotOutput name => .slotOutput name
  | .empty => .empty

def markSafeAll : List Node → List Node
  | [] => []
  | node :: nodes => node.markSafe :: markSafeAll nodes

def markSafeSlots : List Slot → List Slot
  | [] => []
  | ⟨name, content⟩ :: slots => ⟨name, markSafeAll content⟩ :: markSafeSlots slots

end

def Template.markSafe (t : Template) : Template := ⟨t.name, markSafeAll t.nodes⟩

theorem markSafeAll_eq_map (ns : List Node) : markSafeAll ns = ns.map Node.markSafe := by
  induction ns with
  | nil => rfl
  | cons n ns ih => rw [markSafeAll, ih, List.map_cons]

theorem markSafeSlots_eq_map (slots : List Slot) :
    markSafeSlots slots = slots.map fun slot => ⟨slot.name, slot.content.map Node.markSafe⟩ := by
  induction slots with
  | nil => rfl
  | cons slot slots ih =>
    obtain ⟨name, content⟩ := slot
    rw [markSafeSlots, ih, List.map_cons, markSafeAll_eq_map]

theorem recasts_markSafe (r : Relocation) : Recasts r fun n => n.markSafe.relocate r where
  conditional _ _ _ _ := by
    simp only [Node.markSafe, Node.relocate, relocateAll_eq_map, markSafeAll_eq_map, List.map_map]
    rfl
  loop _ _ _ _ := by
    simp only [Node.markSafe, Node.relocate, relocateAll_eq_map, markSafeAll_eq_map, List.map_map]
    rfl
  marker _ _ _ _ := by
    simp only [Node.markSafe, Node.relocate, relocateAll_eq_map, markSafeAll_eq_map, List.map_map]
    rfl
  whole h := by cases h <;> constructor

end SlotTemplate

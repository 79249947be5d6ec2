import SlotTemplate.Proofs.Relocation

/-!
# Invocations in block form

An invocation is written inline or as a block, and a block without content has an empty default slot
where the inline form has no slot. A tree is expanded if all its invocations are written as blocks.
Expanded trees have no places, and no tag names: these do not matter where nodes are rendered.

* `Node.expand`: a node as it is with all invocations below it in block form;
* `recasts_expand`: a body is divided into the same slots whether it is expanded or not.
-/

namespace SlotTemplate

/-- The slots of an invocation as a block has them: if there is none, the default slot is empty. -/
def blockSlots : List Slot → List Slot
  | [] => [⟨defaultSlot, []⟩]
  | slots => slots

mutual

def Node.expand : Node → Node
  | .text s => .text s
  | .variable e => .variable (e.relocate .erased)
  | .conditional negated e a b =>
    .conditional negated (e.relocate .erased) (expandAll a) (expandAll b)
  | .loop name e body instead =>
    .loop name (e.relocate .erased) (expandAll body) (expandAll instead)
  | .invocation c _ args slots span =>
    .invocation c "" (args.map (·.relocate .erased)) (blockSlots (expandSlots slots))
      (span.relocate .erased)
  | .marker name content span line =>
    .marker name (expandAll content) (span.relocate .erased) (Relocation.erased.line line)
  | .slotOutput name => .slotOutput name
  | .empty => .empty

def expandAll : List Node → List Node
  | [] => []
  | node :: nodes => node.expand :: expandAll nodes

def expandSlots : List Slot → List Slot
  | [] => []
  | ⟨name, content⟩ :: slots => ⟨name, expandAll content⟩ :: expandSlots slots

end

theorem expandAll_eq_map (ns : List Node) : expandAll ns = ns.map Node.expand := by
  induction ns with
  | nil => rfl
  | cons n ns ih => rw [expandAll, ih, List.map_cons]

theorem expandSlots_eq_map (slots : List Slot) :
    expandSlots slots = slots.map fun slot => ⟨slot.name, expandAll slot.content⟩ := by
  induction slots with
  | nil => rfl
  | cons slot slots ih =>
    obtain ⟨name, content⟩ := slot
    rw [expandSlots, ih, List.map_cons]

/-! ## Slots of a body -/

theorem recasts_expand : Recasts .erased Node.expand where
  conditional _ _ _ _ := by rw [Node.expand, expandAll_eq_map, expandAll_eq_map]
  loop _ _ _ _ := by rw [Node.expand, expandAll_eq_map, expandAll_eq_map]
  marker _ _ _ _ := by rw [Node.expand, expandAll_eq_map]
  whole h := by cases h <;> constructor

end SlotTemplate

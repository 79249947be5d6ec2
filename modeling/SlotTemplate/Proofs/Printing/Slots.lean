import SlotTemplate.Proofs.Printing
import SlotTemplate.Proofs.Relocation

/-!
# Slots of printed blocks

* `bodySlots_erase`: places play no part where a body is divided into slots;
* `Divided.bodySlots_body`: the body that slots are printed as is divided into these slots.
-/

namespace SlotTemplate

/-! ## Places -/

theorem eraseAll_eq_map (ns : List Node) : eraseAll ns = ns.map Node.erase := by
  induction ns with
  | nil => rfl
  | cons n ns ih => rw [eraseAll, ih, List.map_cons]

theorem eraseSlots_eq_map (slots : List Slot) :
    eraseSlots slots = slots.map fun slot => ⟨slot.name, eraseAll slot.content⟩ := by
  induction slots with
  | nil => rfl
  | cons slot slots ih =>
    obtain ⟨name, content⟩ := slot
    rw [eraseSlots, ih, List.map_cons]

theorem eraseSlots_names (slots : List Slot) :
    (eraseSlots slots).map Slot.name = slots.map Slot.name := by
  rw [eraseSlots_eq_map, List.map_map]
  rfl

theorem erase_eq_relocate (node : Node) : node.erase = node.relocate .erased := by
  induction node using Node.induction with
  | step node ih =>
    have inside {ns : List Node} (below : ∀ n ∈ ns, n ∈ node.children) :
        eraseAll ns = relocateAll .erased ns := by
      rw [eraseAll_eq_map, relocateAll_eq_map]
      exact List.map_congr_left fun n hn => ih n (below n hn)
    cases node with
    | text | «variable» | slotOutput | empty => rfl
    | conditional _ _ a b | loop _ _ a b =>
      rw [Node.erase, Node.relocate, inside fun n => List.mem_append_left b,
        inside fun n => List.mem_append_right a]
      rfl
    | invocation _ _ _ slots =>
      have contents : eraseSlots slots = relocateSlots .erased slots := by
        rw [eraseSlots_eq_map, relocateSlots_eq_map]
        refine List.map_congr_left fun slot hs => ?_
        rw [inside fun n hn => List.mem_flatMap.2 ⟨slot, hs, hn⟩]
      rw [Node.erase, Node.relocate, contents]
      rfl
    | marker name content =>
      have same : eraseAll content = relocateAll .erased content := inside fun n => id
      rw [Node.erase, Node.relocate, same]
      rfl

theorem eraseAll_eq_relocateAll (ns : List Node) : eraseAll ns = relocateAll .erased ns := by
  rw [eraseAll_eq_map, relocateAll_eq_map]
  exact List.map_congr_left fun n _ => erase_eq_relocate n

/-- A body without places is divided into the same slots without places. -/
theorem bodySlots_erase (body : List Node) :
    bodySlots (eraseAll body) = eraseSlots (bodySlots body) := by
  rw [eraseAll_eq_relocateAll, bodySlots_relocate, relocateSlots_eq_map, eraseSlots_eq_map]
  simp only [eraseAll_eq_relocateAll]

/-! ## Bodies -/

/-- The marker that a named slot is printed as. -/
def Slot.marker (slot : Slot) : Node := .marker slot.name slot.content default 0

theorem printSlots_eq (q : Quoting) (slots : List Slot) :
    printSlots q slots = printAll q (slots.map Slot.marker) := by
  induction slots with
  | nil => rfl
  | cons slot slots ih =>
    obtain ⟨name, content⟩ := slot
    rw [printSlots, ih, List.map_cons, printAll, Slot.marker, Node.print]

theorem extractAll_append (a b : List Node) :
    extractAll (a ++ b) =
      ((extractAll a).1 ++ (extractAll b).1, (extractAll a).2 ++ (extractAll b).2) := by
  simp only [extractAll_eq, List.flatMap_append]

theorem extractAll_of_forall {ns : List Node} (h : ∀ n ∈ ns, n.extract = ([n], [])) :
    extractAll ns = (ns, []) := by
  induction ns with
  | nil => rfl
  | cons n ns ih =>
    obtain ⟨here, others⟩ := List.forall_mem_cons.1 h
    simp [extractAll, here, ih others]

/-- Nothing is taken out of a node without named markers. -/
theorem extract_unmarked {node : Node} (h : node.Throughout Node.parts Node.Unmarked) :
    node.extract = ([node], []) := by
  induction h with
  | @intro node here inside ih =>
    cases node with
    | text | «variable» | invocation | slotOutput | empty => rfl
    | conditional _ _ a b | loop _ _ a b =>
      have first := extractAll_of_forall fun n hn => ih n (List.mem_append_left b hn)
      have second := extractAll_of_forall fun n hn => ih n (List.mem_append_right a hn)
      simp only [Node.extract, first, second, List.append_nil]
    | marker name content span line =>
      have isDefault : name = defaultSlot := here name content span line rfl
      have inner : extractAll content = (content, []) := extractAll_of_forall ih
      simp only [Node.extract, inner, if_pos isDefault]

theorem spliceDefault_append (a b : List Node) :
    spliceDefault (a ++ b) = spliceDefault a ++ spliceDefault b := by
  induction a with
  | nil => rfl
  | cons n a ih =>
    cases n with
    | marker name content span line =>
      simp only [List.cons_append, spliceDefault, ih]
      split
      · rw [List.append_assoc]
      · rfl
    | _ => simp only [List.cons_append, spliceDefault, ih]

theorem spliceDefault_of_forall {ns : List Node}
    (h : ∀ content span line, .marker defaultSlot content span line ∉ ns) :
    spliceDefault ns = ns := by
  induction ns with
  | nil => rfl
  | cons n ns ih =>
    have others := ih fun content span line hm => h content span line (List.mem_cons_of_mem _ hm)
    cases n with
    | marker name content span line =>
      have other : name ≠ defaultSlot := by
        rintro rfl
        exact h content span line List.mem_cons_self
      rw [spliceDefault, if_neg other, others]
    | _ =>
      rw [spliceDefault, others]
      simp

theorem extractAll_markers {named : List Slot} (other : ∀ slot ∈ named, slot.name ≠ defaultSlot)
    (unmarked : ∀ slot ∈ named, ∀ n ∈ slot.content, n.Throughout Node.parts Node.Unmarked) :
    extractAll (named.map Slot.marker) =
      ([], named.map fun slot => ⟨slot.name, slot.content, default, 0⟩) := by
  induction named with
  | nil => rfl
  | cons slot named ih =>
    obtain ⟨here, others⟩ := List.forall_mem_cons.1 other
    obtain ⟨inside, more⟩ := List.forall_mem_cons.1 unmarked
    have content := extractAll_of_forall fun n hn => extract_unmarked (inside n hn)
    rw [List.map_cons, extractAll, ih others more]
    simp only [Slot.marker, Node.extract, content, if_neg here, List.map_cons, List.nil_append,
      List.cons_append]

theorem Divided.nodup {slots : List Slot} (h : Divided slots) : (slots.map Slot.name).Nodup := by
  cases h with
  | intro distinct => exact distinct

/-- The body that slots are printed as is divided into these slots. -/
theorem Divided.bodySlots_body {content : List Node} {named : List Slot}
    (h : Divided (⟨defaultSlot, content⟩ :: named)) :
    bodySlots (content ++ named.map Slot.marker) = ⟨defaultSlot, content⟩ :: named := by
  cases h with
  | intro distinct names apart unmarked unspliced =>
    obtain ⟨inside, more⟩ := List.forall_mem_cons.1 unmarked
    have other : ∀ slot ∈ named, slot.name ≠ defaultSlot := by
      intro slot hs e
      have again : slot.name ∈ named.map Slot.name := List.mem_map_of_mem hs
      rw [e] at again
      exact (List.nodup_cons.1 distinct).1 again
    have stays : spliceDefault (named.map Slot.marker) = named.map Slot.marker := by
      refine spliceDefault_of_forall fun inner span line hm => ?_
      obtain ⟨slot, hs, e⟩ := List.mem_map.1 hm
      exact other slot hs (Node.marker.inj e).1
    have kept := extractAll_of_forall fun n hn => extract_unmarked (inside n hn)
    have taken := extractAll_markers other more
    have same : named.map (fun slot => (⟨slot.name, slot.content⟩ : Slot)) = named :=
      List.map_id'' (fun ⟨_, _⟩ => rfl) named
    simp [bodySlots, spliceDefault_append, spliceDefault_of_forall unspliced, stays,
      extractAll_append, kept, taken, Function.comp_def, same]

end SlotTemplate

import SlotTemplate.Proofs.Result
import SlotTemplate.Proofs.Tree.Partition

/-!
# What belongs to which slot

A node of a body belongs to the innermost named marker around it, or to the default slot if there is
none. Invocations are nodes like others here: what stands in their slots is theirs.

* `extract_eq`: what is kept of a tree are its nodes without the named markers, and what is taken
  are these markers, emptied of those inside them;
* `owned_strip`, `owned_marker`: what stands in a slot is what belongs to it, in order;
* `partitionSlots_divides`: how a body is divided, and when it is not.
-/

namespace SlotTemplate

mutual

/-- A node without the named markers in it; a named marker itself is gone. -/
def Node.strip : Node → List Node
  | .marker name content span line =>
    if name = defaultSlot then [.marker name (stripAll content) span line] else []
  | .conditional negated condition thenBranch elseBranch =>
    [.conditional negated condition (stripAll thenBranch) (stripAll elseBranch)]
  | .loop name iterable body empty => [.loop name iterable (stripAll body) (stripAll empty)]
  | node => [node]

/-- Nodes without the named markers among and in them. -/
def stripAll : List Node → List Node
  | [] => []
  | node :: nodes => node.strip ++ stripAll nodes

end

mutual

/-- The named markers of a node in the order of the source, those in other markers included. -/
def Node.namedMarkers : Node → List Marker
  | .marker name content span line =>
    if name = defaultSlot then namedMarkersAll content
    else ⟨name, content, span, line⟩ :: namedMarkersAll content
  | .conditional _ _ thenBranch elseBranch =>
    namedMarkersAll thenBranch ++ namedMarkersAll elseBranch
  | .loop _ _ body empty => namedMarkersAll body ++ namedMarkersAll empty
  | _ => []

/-- The named markers of nodes in the order of the source. -/
def namedMarkersAll : List Node → List Marker
  | [] => []
  | node :: nodes => node.namedMarkers ++ namedMarkersAll nodes

end

mutual

/-- The nodes of a tree in the order of the source, without the nodes below them and markers apart,
each with the slot that it belongs to where the tree itself belongs to `owner`. -/
def Node.owned (owner : String) : Node → List (String × Node)
  | .marker name content _ _ => ownedAll (if name = defaultSlot then owner else name) content
  | .conditional negated condition thenBranch elseBranch =>
    (owner, .conditional negated condition [] []) ::
      (ownedAll owner thenBranch ++ ownedAll owner elseBranch)
  | .loop name iterable body empty =>
    (owner, .loop name iterable [] []) :: (ownedAll owner body ++ ownedAll owner empty)
  | node => [(owner, node)]

def ownedAll (owner : String) : List Node → List (String × Node)
  | [] => []
  | node :: nodes => node.owned owner ++ ownedAll owner nodes

end

/-- The content of a marker of the default slot, and any other node as it is. -/
def Node.unwrap : Node → List Node
  | .marker name content span line =>
    if name = defaultSlot then content else [.marker name content span line]
  | node => [node]

/-- A marker without the named markers in it. -/
def Marker.stripped (m : Marker) : Marker := { m with content := stripAll m.content }

theorem namedMarkersAll_eq_flatMap (ns : List Node) :
    namedMarkersAll ns = ns.flatMap Node.namedMarkers := by
  induction ns with
  | nil => rfl
  | cons n ns ih => rw [namedMarkersAll, ih, List.flatMap_cons]

theorem ownedAll_eq_flatMap (owner : String) (ns : List Node) :
    ownedAll owner ns = ns.flatMap (Node.owned owner) := by
  induction ns with
  | nil => rfl
  | cons n ns ih => rw [ownedAll, ih, List.flatMap_cons]

theorem ownedAll_append (owner : String) (a b : List Node) :
    ownedAll owner (a ++ b) = ownedAll owner a ++ ownedAll owner b := by
  simp only [ownedAll_eq_flatMap, List.flatMap_append]

theorem namedMarkersAll_append (a b : List Node) :
    namedMarkersAll (a ++ b) = namedMarkersAll a ++ namedMarkersAll b := by
  simp only [namedMarkersAll_eq_flatMap, List.flatMap_append]

/-! ## What is kept and what is taken -/

theorem extractAll_eq_stripAll {ns : List Node}
    (h : ∀ n ∈ ns, n.extract = (n.strip, n.namedMarkers.map Marker.stripped)) :
    extractAll ns = (stripAll ns, (namedMarkersAll ns).map Marker.stripped) := by
  induction ns with
  | nil => rfl
  | cons n ns ih =>
    obtain ⟨here, there⟩ := List.forall_mem_cons.1 h
    rw [extractAll, here, ih there, stripAll, namedMarkersAll, List.map_append]

/-- What is kept of a node is the node without its named markers, and what is taken are these. -/
theorem extract_eq (node : Node) :
    node.extract = (node.strip, node.namedMarkers.map Marker.stripped) := by
  induction node using Node.induction with
  | step node ih =>
    cases node with
    | text | «variable» | invocation | slotOutput | empty => rfl
    | conditional negated e a b =>
      have first := extractAll_eq_stripAll fun n hn => ih n (List.mem_append_left b hn)
      have second := extractAll_eq_stripAll fun n hn => ih n (List.mem_append_right a hn)
      rw [Node.extract, first, second, Node.strip, Node.namedMarkers, List.map_append]
    | loop name e a b =>
      have first := extractAll_eq_stripAll fun n hn => ih n (List.mem_append_left b hn)
      have second := extractAll_eq_stripAll fun n hn => ih n (List.mem_append_right a hn)
      rw [Node.extract, first, second, Node.strip, Node.namedMarkers, List.map_append]
    | marker name content span line =>
      have inner : extractAll content = _ := extractAll_eq_stripAll ih
      rw [Node.extract, inner, Node.strip, Node.namedMarkers]
      by_cases isDefault : name = defaultSlot
      · simp only [if_pos isDefault]
      · simp only [if_neg isDefault, List.map_cons]
        rfl

theorem spliceDefault_eq_flatMap (ns : List Node) : spliceDefault ns = ns.flatMap Node.unwrap := by
  fun_induction spliceDefault ns with
  | case1 => rfl
  | case2 content span line ns ih =>
    rw [ih, List.flatMap_cons, Node.unwrap, if_pos rfl]
  | case3 name content span line ns other ih =>
    rw [ih, List.flatMap_cons, Node.unwrap, if_neg other, List.singleton_append]
  | case4 node ns other ih =>
    rw [ih, List.flatMap_cons, Node.unwrap, List.singleton_append]
    exact other

/-- What a marker of the default slot has from its content alone stays when the content takes its
place. -/
theorem flatMap_unwrap {α : Type} {f : Node → List α}
    (h : ∀ content span line, f (.marker defaultSlot content span line) = content.flatMap f)
    (body : List Node) : (body.flatMap Node.unwrap).flatMap f = body.flatMap f := by
  have each (n : Node) : n.unwrap.flatMap f = f n := by
    cases n with
    | marker name content span line =>
      rw [Node.unwrap]
      split
      · rename_i isDefault
        rw [isDefault, h]
      · exact List.flatMap_singleton ..
    | _ => exact List.flatMap_singleton ..
  simp only [List.flatMap_assoc, each]

theorem namedMarkersAll_unwrap (body : List Node) :
    namedMarkersAll (body.flatMap Node.unwrap) = namedMarkersAll body := by
  rw [namedMarkersAll_eq_flatMap, namedMarkersAll_eq_flatMap, flatMap_unwrap]
  intro content span line
  rw [Node.namedMarkers, if_pos rfl, namedMarkersAll_eq_flatMap]

theorem ownedAll_unwrap (body : List Node) :
    ownedAll defaultSlot (body.flatMap Node.unwrap) = ownedAll defaultSlot body := by
  rw [ownedAll_eq_flatMap, ownedAll_eq_flatMap, flatMap_unwrap]
  intro content span line
  rw [Node.owned, if_pos rfl, ownedAll_eq_flatMap]

theorem bodySlots_eq (body : List Node) :
    bodySlots body = ⟨defaultSlot, stripAll (body.flatMap Node.unwrap)⟩ ::
      (namedMarkersAll body).map fun m => ⟨m.name, stripAll m.content⟩ := by
  rw [bodySlots, extractAll_eq_stripAll fun n _ => extract_eq n, spliceDefault_eq_flatMap,
    namedMarkersAll_unwrap, List.map_map]
  rfl

/-! ## What belongs to a slot -/

/-- The nodes that belong to a slot. -/
def share (name : String) (nodes : List (String × Node)) : List (String × Node) :=
  nodes.filter fun p => p.1 = name

theorem share_append (name : String) (a b : List (String × Node)) :
    share name (a ++ b) = share name a ++ share name b :=
  List.filter_append ..

theorem share_cons_self (name : String) (node : Node) (nodes : List (String × Node)) :
    share name ((name, node) :: nodes) = (name, node) :: share name nodes :=
  List.filter_cons_of_pos (by simp)

theorem share_cons_of_ne {name other : String} (ne : other ≠ name) (node : Node)
    (nodes : List (String × Node)) : share name ((other, node) :: nodes) = share name nodes :=
  List.filter_cons_of_neg (by simpa using ne)

section

variable {owner name : String} {ns a b : List Node}

theorem owner_of_mem_ownedAll (h : ∀ n ∈ ns, ∀ p ∈ n.owned owner,
      p.1 = owner ∨ p.1 ∈ n.namedMarkers.map Marker.name) :
    ∀ p ∈ ownedAll owner ns, p.1 = owner ∨ p.1 ∈ (namedMarkersAll ns).map Marker.name := by
  induction ns with
  | nil => exact List.forall_mem_nil _
  | cons n ns ih =>
    obtain ⟨here, there⟩ := List.forall_mem_cons.1 h
    rw [ownedAll, namedMarkersAll, List.map_append]
    refine List.forall_mem_append.2 ⟨fun p hp => ?_, fun p hp => ?_⟩
    · exact (here p hp).imp_right (List.mem_append_left _)
    · exact (ih there p hp).imp_right (List.mem_append_right _)

/-- What stands in a tree belongs to the owner of the tree or to a named marker in it. -/
theorem owner_of_mem_owned (node : Node) (owner : String) :
    ∀ p ∈ node.owned owner, p.1 = owner ∨ p.1 ∈ node.namedMarkers.map Marker.name := by
  induction node using Node.induction generalizing owner with
  | step node ih =>
    cases node with
    | text | «variable» | invocation | slotOutput | empty => simp [Node.owned]
    | conditional negated e a b | loop name e a b =>
      have inside := owner_of_mem_ownedAll fun n (hn : n ∈ a ++ b) => ih n hn owner
      rw [Node.owned, Node.namedMarkers, ← ownedAll_append, ← namedMarkersAll_append]
      exact List.forall_mem_cons.2 ⟨.inl rfl, inside⟩
    | marker name content span line =>
      rw [Node.owned, Node.namedMarkers]
      by_cases isDefault : name = defaultSlot
      · rw [if_pos isDefault, if_pos isDefault]
        exact owner_of_mem_ownedAll fun n hn => ih n hn owner
      · rw [if_neg isDefault, if_neg isDefault, List.map_cons]
        intro p hp
        exact .inr (List.mem_cons.2 (owner_of_mem_ownedAll (fun n hn => ih n hn name) p hp))

/-- Nothing in a tree belongs to a slot that is neither around nor in it. -/
theorem share_eq_nil {nodes : List (String × Node)} {names : List String}
    (owners : ∀ p ∈ nodes, p.1 = owner ∨ p.1 ∈ names) (around : name ≠ owner)
    (inside : name ∉ names) : share name nodes = [] := by
  refine List.filter_eq_nil_iff.2 fun p hp same => ?_
  obtain rfl : p.1 = name := by simpa using same
  exact (owners p hp).elim around inside

theorem share_ownedAll_eq_nil (around : name ≠ owner)
    (inside : name ∉ (namedMarkersAll ns).map Marker.name) : share name (ownedAll owner ns) = [] :=
  share_eq_nil (owner_of_mem_ownedAll fun n _ => owner_of_mem_owned n owner) around inside

theorem ownedAll_stripAll_of_forall
    (h : ∀ n ∈ ns, owner ∉ n.namedMarkers.map Marker.name →
      ownedAll owner n.strip = share owner (n.owned owner))
    (fresh : owner ∉ (namedMarkersAll ns).map Marker.name) :
    ownedAll owner (stripAll ns) = share owner (ownedAll owner ns) := by
  induction ns with
  | nil => rfl
  | cons n ns ih =>
    obtain ⟨here, there⟩ := List.forall_mem_cons.1 h
    rw [namedMarkersAll, List.map_append, List.mem_append, not_or] at fresh
    rw [stripAll, ownedAll_append, here fresh.1, ih there fresh.2, ownedAll, share_append]

/-- What is left of a node without its named markers belongs to the owner of the node. -/
theorem owned_strip (node : Node) (fresh : owner ∉ node.namedMarkers.map Marker.name) :
    ownedAll owner node.strip = share owner (node.owned owner) := by
  induction node using Node.induction with
  | step node ih =>
    cases node with
    | text | «variable» | invocation | slotOutput | empty =>
      exact (share_cons_self owner _ []).symm
    | conditional negated e a b | loop name e a b =>
      rw [Node.namedMarkers, List.map_append, List.mem_append, not_or] at fresh
      have first := ownedAll_stripAll_of_forall
        (fun n hn => ih n (List.mem_append_left b hn)) fresh.1
      have second := ownedAll_stripAll_of_forall
        (fun n hn => ih n (List.mem_append_right a hn)) fresh.2
      rw [Node.owned, share_cons_self, share_append, ← first, ← second]
      exact List.append_nil _
    | marker name content span line =>
      rw [Node.namedMarkers] at fresh
      by_cases isDefault : name = defaultSlot
      · rw [if_pos isDefault] at fresh
        have inner : ownedAll owner (stripAll content) = _ := ownedAll_stripAll_of_forall ih fresh
        rw [Node.strip, Node.owned, if_pos isDefault, if_pos isDefault, ← inner, ownedAll,
          Node.owned, if_pos isDefault]
        exact List.append_nil _
      · rw [if_neg isDefault, List.map_cons, List.mem_cons, not_or] at fresh
        rw [Node.strip, Node.owned, if_neg isDefault, if_neg isDefault,
          share_ownedAll_eq_nil fresh.1 fresh.2]
        rfl

theorem owned_marker_of_forall
    (h : ∀ n ∈ ns, (owner :: n.namedMarkers.map Marker.name).Nodup → ∀ m ∈ n.namedMarkers,
      ownedAll m.name (stripAll m.content) = share m.name (n.owned owner))
    (distinct : (owner :: (namedMarkersAll ns).map Marker.name).Nodup) :
    ∀ m ∈ namedMarkersAll ns,
      ownedAll m.name (stripAll m.content) = share m.name (ownedAll owner ns) := by
  induction ns with
  | nil => exact List.forall_mem_nil _
  | cons n ns ih =>
    obtain ⟨here, there⟩ := List.forall_mem_cons.1 h
    rw [namedMarkersAll, List.map_append] at distinct
    obtain ⟨around, distinct⟩ := List.nodup_cons.1 distinct
    obtain ⟨first, second, apart⟩ := List.nodup_append.1 distinct
    rw [List.mem_append, not_or] at around
    rw [namedMarkersAll, ownedAll]
    refine List.forall_mem_append.2 ⟨fun m hm => ?_, fun m hm => ?_⟩
    · have named : m.name ∈ n.namedMarkers.map Marker.name := List.mem_map_of_mem hm
      have elsewhere : share m.name (ownedAll owner ns) = [] := share_ownedAll_eq_nil
        (fun same => around.1 (same ▸ named)) fun again => apart _ named _ again rfl
      rw [share_append, elsewhere, List.append_nil]
      exact here (List.nodup_cons.2 ⟨around.1, first⟩) m hm
    · have named : m.name ∈ (namedMarkersAll ns).map Marker.name := List.mem_map_of_mem hm
      have elsewhere : share m.name (n.owned owner) = [] := share_eq_nil
        (owner_of_mem_owned n owner) (fun same => around.2 (same ▸ named))
        fun again => apart _ again _ named rfl
      rw [share_append, elsewhere, List.nil_append]
      exact ih there (List.nodup_cons.2 ⟨around.2, second⟩) m hm

/-- What is left of a named marker without those in it belongs to it. -/
theorem owned_marker (node : Node) (owner : String)
    (distinct : (owner :: node.namedMarkers.map Marker.name).Nodup) :
    ∀ m ∈ node.namedMarkers,
      ownedAll m.name (stripAll m.content) = share m.name (node.owned owner) := by
  induction node using Node.induction generalizing owner with
  | step node ih =>
    cases node with
    | text | «variable» | invocation | slotOutput | empty => exact List.forall_mem_nil _
    | conditional negated e a b | loop name e a b =>
      rw [Node.namedMarkers, ← namedMarkersAll_append] at distinct ⊢
      intro m hm
      have around : owner ≠ m.name := fun e =>
        (List.nodup_cons.1 distinct).1 (e ▸ List.mem_map_of_mem hm)
      rw [Node.owned, share_cons_of_ne around, ← ownedAll_append]
      exact owned_marker_of_forall (fun n hn => ih n hn owner) distinct m hm
    | marker name content span line =>
      rw [Node.namedMarkers] at distinct ⊢
      rw [Node.owned]
      by_cases isDefault : name = defaultSlot
      · rw [if_pos isDefault] at distinct ⊢
        rw [if_pos isDefault]
        exact owned_marker_of_forall (fun n hn => ih n hn owner) distinct
      · rw [if_neg isDefault] at distinct ⊢
        rw [if_neg isDefault]
        have inside : (name :: (namedMarkersAll content).map Marker.name).Nodup :=
          (List.nodup_cons.1 distinct).2
        refine List.forall_mem_cons.2 ⟨?_, ?_⟩
        · exact ownedAll_stripAll_of_forall (fun n _ => owned_strip n) (List.nodup_cons.1 inside).1
        · exact owned_marker_of_forall (fun n hn => ih n hn name) inside

end

/-! ## The division of a body -/

theorem name_ne_of_mem_namedMarkers {body : List Node} {m : Marker} (h : m ∈ namedMarkersAll body) :
    m.name ≠ defaultSlot := by
  rw [namedMarkersAll_eq_flatMap] at h
  obtain ⟨n, -, hm⟩ := List.mem_flatMap.1 h
  have taken : m.stripped ∈ n.extract.2 := by
    rw [extract_eq]
    exact List.mem_map_of_mem hm
  exact name_ne_of_mem_extract n m.stripped taken

/-- Of slots with different names, each has what belongs to it. -/
theorem ownedAll_bodySlots {body : List Node}
    (distinct : ((namedMarkersAll body).map Marker.name).Nodup) :
    ∀ slot ∈ bodySlots body,
      ownedAll slot.name slot.content = share slot.name (ownedAll defaultSlot body) := by
  have fresh : defaultSlot ∉ (namedMarkersAll body).map Marker.name := by
    intro h
    obtain ⟨m, hm, e⟩ := List.mem_map.1 h
    exact name_ne_of_mem_namedMarkers hm e
  rw [bodySlots_eq]
  refine List.forall_mem_cons.2 ⟨?_, List.forall_mem_map.2 ?_⟩
  · rw [← namedMarkersAll_unwrap] at fresh
    rw [← ownedAll_unwrap body]
    exact ownedAll_stripAll_of_forall (fun n _ => owned_strip n) fresh
  · exact owned_marker_of_forall (fun n _ => owned_marker n defaultSlot)
      (List.nodup_cons.2 ⟨fresh, distinct⟩)

/-- The marker that a body is rejected for is the first one whose name came before. -/
theorem first_of_repeatedMarker? {seen : List String} {ms : List Marker} {m : Marker}
    (h : repeatedMarker? seen ms = some m) :
    ∃ before after, ms = before ++ m :: after ∧
      ((before.map Marker.name).Nodup ∧ ∀ b ∈ before, b.name ∉ seen) ∧
      (m.name ∈ before.map Marker.name ∨ m.name ∈ seen) := by
  induction ms generalizing seen with
  | nil => cases h
  | cons b ms ih =>
    rw [repeatedMarker?] at h
    by_cases repeated : b.name ∈ seen
    · simp only [List.contains_eq_mem, repeated, decide_true, if_true, Option.some.injEq] at h
      subst h
      exact ⟨[], ms, rfl, ⟨.nil, List.forall_mem_nil _⟩, .inr repeated⟩
    · simp only [List.contains_eq_mem, repeated, decide_false, Bool.false_eq_true, if_false] at h
      obtain ⟨before, after, rfl, distinct, again⟩ := ih h
      obtain ⟨distinct, fresh⟩ := nodup_fresh_cons_iff.1 distinct
      refine ⟨b :: before, after, rfl, ⟨distinct, List.forall_mem_cons.2 ⟨repeated, fresh⟩⟩, ?_⟩
      rcases again with again | again
      · exact .inl (List.mem_cons_of_mem _ again)
      · exact (List.mem_cons.1 again).imp_left fun same => List.mem_cons.2 (.inl same)

theorem repeatedMarker?_stripped (seen : List String) (ms : List Marker) :
    repeatedMarker? seen (ms.map Marker.stripped) =
      (repeatedMarker? seen ms).map Marker.stripped := by
  induction ms generalizing seen with
  | nil => rfl
  | cons m ms ih =>
    rw [List.map_cons, repeatedMarker?, repeatedMarker?, ih, apply_ite (Option.map _)]
    rfl

/-- A body whose named markers have different names is divided into the slot of what is left without
them and their own slots in the order of the source, and each node belongs to exactly one slot, in
which the nodes keep their order. Otherwise the body is rejected for the first marker whose name
came before. -/
theorem partitionSlots_divides (tag : Tag) (body : List Node) :
    let markers := namedMarkersAll body
    let slots : List Slot := ⟨defaultSlot, stripAll (body.flatMap Node.unwrap)⟩ ::
      markers.map fun m => ⟨m.name, stripAll m.content⟩
    ((markers.map Marker.name).Nodup → partitionSlots tag body = .ok slots ∧
      (slots.map Slot.name).Nodup ∧
      (∀ p ∈ ownedAll defaultSlot body, p.1 ∈ slots.map Slot.name) ∧
      ∀ slot ∈ slots, ownedAll slot.name slot.content =
        (ownedAll defaultSlot body).filter fun p => p.1 = slot.name) ∧
    (¬ (markers.map Marker.name).Nodup → ∃ before m after, markers = before ++ m :: after ∧
      (before.map Marker.name).Nodup ∧ m.name ∈ before.map Marker.name ∧
      partitionSlots tag body = .error ⟨tag.name, m.span, m.line, .repeatedSlot m.name⟩) := by
  intro markers slots
  have whole : bodySlots body = slots := bodySlots_eq body
  have names : slots.map Slot.name = defaultSlot :: markers.map Marker.name := by
    simp [slots, Function.comp_def]
  have fresh : defaultSlot ∉ markers.map Marker.name := by
    intro h
    obtain ⟨m, hm, e⟩ := List.mem_map.1 h
    exact name_ne_of_mem_namedMarkers hm e
  have distinct : (slots.map Slot.name).Nodup ↔ (markers.map Marker.name).Nodup := by
    rw [names, List.nodup_cons]
    exact and_iff_right fresh
  constructor
  · intro nodup
    refine ⟨partitionSlots_eq_ok_iff.2 ⟨whole.symm, distinct.2 nodup⟩, distinct.2 nodup, ?_,
      whole ▸ ownedAll_bodySlots nodup⟩
    intro p hp
    rw [names, List.mem_cons]
    exact owner_of_mem_ownedAll (fun n _ => owner_of_mem_owned n defaultSlot) p hp
  · intro repeated
    have taken : (extractAll (spliceDefault body)).2 = markers.map Marker.stripped := by
      rw [extractAll_eq_stripAll fun n _ => extract_eq n, spliceDefault_eq_flatMap,
        namedMarkersAll_unwrap]
    cases found : repeatedMarker? [] markers with
    | none => exact absurd (repeatedMarker?_eq_none_iff.1 found).1 repeated
    | some m =>
      obtain ⟨before, after, split, ⟨first, -⟩, again⟩ := first_of_repeatedMarker? found
      refine ⟨before, m, after, split, first, again.resolve_right List.not_mem_nil, ?_⟩
      have here : repeatedMarker? [] (extractAll (spliceDefault body)).2 = some m.stripped := by
        rw [taken, repeatedMarker?_stripped, found]
        rfl
      simp only [partitionSlots, here]
      rfl

theorem partitionSlots_divides_nested :
    let marker (name : String) (line : Nat) (content : List Node) : Node :=
      .marker name content ⟨line, line⟩ line
    let tag : Tag := ⟨"card", 3, ⟨0, 10⟩, 1⟩
    let apart := [marker "slot" 1 [.text "a", marker "x" 2 [.text "b", marker "y" 3 [.text "c"]]],
      .conditional false default [.text "d", marker "z" 4 [.empty]] [marker "slot" 5 [.text "e"]]]
    let again := [.loop "i" default [marker "x" 6 [.text "f", marker "y" 7 []]] [marker "y" 8 []],
      marker "x" 9 []]
    (((namedMarkersAll apart).map Marker.name).Nodup ∧ partitionSlots tag apart = .ok
        [⟨"slot", [.text "a",
          .conditional false default [.text "d"] [marker "slot" 5 [.text "e"]]]⟩,
          ⟨"x", [.text "b"]⟩, ⟨"y", [.text "c"]⟩, ⟨"z", [.empty]⟩]) ∧
      ¬ ((namedMarkersAll again).map Marker.name).Nodup ∧
      (∃ before m after, namedMarkersAll again = before ++ m :: after ∧
        (before.map Marker.name).Nodup ∧ m.name ∈ before.map Marker.name ∧
        partitionSlots tag again = .error ⟨tag.name, m.span, m.line, .repeatedSlot m.name⟩) ∧
      partitionSlots tag again = .error ⟨"card", ⟨8, 8⟩, 8, .repeatedSlot "y"⟩ := by
  intro marker tag apart again
  have distinct : ((namedMarkersAll apart).map Marker.name).Nodup := by decide
  have repeated : ¬ ((namedMarkersAll again).map Marker.name).Nodup := by decide
  exact ⟨⟨distinct, ((partitionSlots_divides tag apart).1 distinct).1⟩, repeated,
    (partitionSlots_divides tag again).2 repeated, by decide +kernel⟩

end SlotTemplate

import SlotTemplate.Proofs.Tree
import SlotTemplate.Slot

/-!
# Partition of a body

* `partitionSlots_eq_ok_iff`: a body is divided exactly if no two of its slots have the same name;
* `bodySlots_unmarked`: no named marker stays in a slot, except in the invocations in it;
* `bodySlots_everywhere`: what holds everywhere in a body holds everywhere in its slots.
-/

namespace SlotTemplate

namespace Node

/-- A property does not hang on the branches of a node or on the content of a marker. -/
structure HeadOnly (P : Node → Prop) : Prop where
  conditional {negated : Bool} {e : Expr} {a b : List Node} (a' b' : List Node)
    (h : P (.conditional negated e a b)) : P (.conditional negated e a' b')
  loop {name : String} {e : Expr} {a b : List Node} (a' b' : List Node)
    (h : P (.loop name e a b)) : P (.loop name e a' b')
  marker {name : String} {content : List Node} {span : Span} {line : Nat} (content' : List Node)
    (h : P (.marker name content span line)) : P (.marker name content' span line)

/-- A node is no named marker. -/
def Unmarked (node : Node) : Prop :=
  ∀ name content span line, node = .marker name content span line → name = defaultSlot

end Node

/-- The slots of the body of a block, whatever their names are. -/
def bodySlots (body : List Node) : List Slot :=
  ⟨defaultSlot, (extractAll (spliceDefault body)).1⟩ ::
    (extractAll (spliceDefault body)).2.map fun m => ⟨m.name, m.content⟩

theorem extractAll_eq (ns : List Node) :
    extractAll ns = (ns.flatMap (·.extract.1), ns.flatMap (·.extract.2)) := by
  induction ns with
  | nil => rfl
  | cons n ns ih => rw [extractAll, ih]; rfl

/-- A taken marker has a name of its own. -/
theorem name_ne_of_mem_extract (node : Node) : ∀ m ∈ node.extract.2, m.name ≠ defaultSlot := by
  induction node using Node.induction with
  | step node ih =>
    cases node with
    | text | «variable» | invocation | slotOutput | empty => simp [Node.extract]
    | conditional | loop =>
      intro m hm
      simp only [Node.extract, extractAll_eq, List.mem_append, List.mem_flatMap] at hm
      rcases hm with ⟨n, hn, hm⟩ | ⟨n, hn, hm⟩
      · exact ih n (List.mem_append_left _ hn) m hm
      · exact ih n (List.mem_append_right _ hn) m hm
    | marker name content span line =>
      intro m hm
      by_cases h : name = defaultSlot
      · simp only [Node.extract, extractAll_eq, if_pos h, List.mem_flatMap] at hm
        obtain ⟨n, hn, hm⟩ := hm
        exact ih n hn m hm
      · simp only [Node.extract, extractAll_eq, if_neg h, List.mem_cons, List.mem_flatMap] at hm
        rcases hm with rfl | ⟨n, hn, hm⟩
        · exact h
        · exact ih n hn m hm

/-- Names that differ from one name, from each other and from those seen before. -/
theorem nodup_fresh_cons_iff {α : Type} {f : α → String} {as : List α} {name : String}
    {seen : List String} :
    ((as.map f).Nodup ∧ ∀ a ∈ as, f a ∉ name :: seen) ↔
      (name :: as.map f).Nodup ∧ ∀ a ∈ as, f a ∉ seen := by
  simp only [List.nodup_cons, List.mem_cons, not_or]
  constructor
  · rintro ⟨nodup, fresh⟩
    refine ⟨⟨fun h => ?_, nodup⟩, fun a ha => (fresh a ha).2⟩
    obtain ⟨a, ha, e⟩ := List.mem_map.1 h
    exact (fresh a ha).1 e
  · rintro ⟨⟨new, nodup⟩, fresh⟩
    exact ⟨nodup, fun a ha => ⟨fun e => new (e ▸ List.mem_map_of_mem ha), fresh a ha⟩⟩

theorem repeatedMarker?_eq_none_iff {seen : List String} {ms : List Marker} :
    repeatedMarker? seen ms = none ↔
      (ms.map Marker.name).Nodup ∧ ∀ m ∈ ms, m.name ∉ seen := by
  induction ms generalizing seen with
  | nil => simp [repeatedMarker?]
  | cons m ms ih =>
    rw [repeatedMarker?, List.forall_mem_cons]
    by_cases h : m.name ∈ seen
    · simp [h]
    · simp only [List.contains_eq_mem, h, decide_false, Bool.false_eq_true, if_false, ih,
        nodup_fresh_cons_iff, List.map_cons, not_false_eq_true, true_and]

theorem mem_of_repeatedMarker? {seen : List String} {ms : List Marker} {m : Marker}
    (h : repeatedMarker? seen ms = some m) : m ∈ ms := by
  induction ms generalizing seen with
  | nil => cases h
  | cons m' ms ih =>
    rw [repeatedMarker?] at h
    split at h
    · cases h
      exact List.mem_cons_self
    · exact List.mem_cons_of_mem _ (ih h)

/-- A body that is not divided is rejected for one of its markers. -/
theorem partitionSlots_eq_error {tag : Tag} {body : List Node} {e : TagError}
    (h : partitionSlots tag body = .error e) :
    ∃ m ∈ (extractAll (spliceDefault body)).2,
      e = ⟨tag.name, m.span, m.line, .repeatedSlot m.name⟩ := by
  rw [partitionSlots] at h
  cases found : repeatedMarker? [] (extractAll (spliceDefault body)).2 with
  | some m =>
    simp only [found, Except.error.injEq] at h
    exact ⟨m, mem_of_repeatedMarker? found, h.symm⟩
  | none => simp [found] at h

/-- A body is divided exactly if no two of its slots have the same name. -/
theorem partitionSlots_eq_ok_iff {tag : Tag} {body : List Node} {slots : List Slot} :
    partitionSlots tag body = .ok slots ↔
      slots = bodySlots body ∧ (slots.map Slot.name).Nodup := by
  have other : defaultSlot ∉ (extractAll (spliceDefault body)).2.map Marker.name := by
    rw [extractAll_eq]
    intro h
    obtain ⟨m, hm, e⟩ := List.mem_map.1 h
    obtain ⟨n, -, hm⟩ := List.mem_flatMap.1 hm
    exact name_ne_of_mem_extract n m hm e
  have distinct : ((bodySlots body).map Slot.name).Nodup ↔
      ((extractAll (spliceDefault body)).2.map Marker.name).Nodup := by
    simp only [bodySlots, List.map_cons, List.map_map, List.nodup_cons]
    exact and_iff_right other
  rw [partitionSlots]
  cases h : repeatedMarker? [] (extractAll (spliceDefault body)).2 with
  | some m =>
    simp only [h, reduceCtorEq, false_iff, not_and]
    rintro rfl nodup
    rw [repeatedMarker?_eq_none_iff.2 ⟨distinct.1 nodup, by simp⟩] at h
    cases h
  | none =>
    have nodup := distinct.2 (repeatedMarker?_eq_none_iff.1 h).1
    simp only [h, Except.ok.injEq]
    constructor
    · rintro rfl
      exact ⟨rfl, nodup⟩
    · rintro ⟨rfl, -⟩
      rfl

/-- A property of all nodes that are kept and of all that stand in the markers that are taken. -/
def Sorted (P : Node → Prop) (r : List Node × List Marker) : Prop :=
  (∀ n ∈ r.1, P n) ∧ ∀ m ∈ r.2, ∀ n ∈ m.content, P n

theorem sorted_extractAll {P : Node → Prop} {ns : List Node} (h : ∀ n ∈ ns, Sorted P n.extract) :
    Sorted P (extractAll ns) := by
  rw [extractAll_eq]
  constructor
  · intro k hk
    obtain ⟨n, hn, hk⟩ := List.mem_flatMap.1 hk
    exact (h n hn).1 k hk
  · intro m hm
    obtain ⟨n, hn, hm⟩ := List.mem_flatMap.1 hm
    exact (h n hn).2 m hm

theorem sorted_branches {P : Node → Prop} {a b : List Node} {node : Node}
    (h : ∀ n ∈ a ++ b, Sorted P n.extract)
    (here : (∀ n ∈ (extractAll a).1 ++ (extractAll b).1, P n) → P node) :
    Sorted P ([node], (extractAll a).2 ++ (extractAll b).2) := by
  have first := sorted_extractAll fun n hn => h n (List.mem_append_left b hn)
  have second := sorted_extractAll fun n hn => h n (List.mem_append_right a hn)
  constructor
  · simpa using here fun n hn => (List.mem_append.1 hn).elim (first.1 n) (second.1 n)
  · exact fun m hm => (List.mem_append.1 hm).elim (first.2 m) (second.2 m)

theorem sorted_marker {P : Node → Prop} {name : String} {content : List Node} {span : Span}
    {line : Nat} (h : ∀ n ∈ content, Sorted P n.extract)
    (here : name = defaultSlot → (∀ n ∈ (extractAll content).1, P n) →
      P (.marker name (extractAll content).1 span line)) :
    Sorted P (Node.marker name content span line).extract := by
  have inside := sorted_extractAll h
  by_cases isDefault : name = defaultSlot
  · simp only [Node.extract, if_pos isDefault]
    exact ⟨by simpa using here isDefault inside.1, inside.2⟩
  · simp only [Node.extract, if_neg isDefault]
    exact ⟨by simp, List.forall_mem_cons.2 inside⟩

/-- What holds everywhere in a node holds everywhere in what is kept and taken of it. -/
theorem everywhere_extract {P : Node → Prop} (head : Node.HeadOnly P) {node : Node}
    (h : node.Everywhere P) : Sorted (·.Everywhere P) node.extract := by
  induction h with
  | @intro node here inside ih =>
    cases node with
    | text | «variable» | invocation | slotOutput | empty =>
      exact ⟨by simpa [Node.extract] using .intro here inside, by simp [Node.extract]⟩
    | conditional => exact sorted_branches ih (.intro (head.conditional _ _ here) ·)
    | loop => exact sorted_branches ih (.intro (head.loop _ _ here) ·)
    | marker => exact sorted_marker ih fun _ => (.intro (head.marker _ here) ·)

/-- No named marker stays in what is kept and taken of a node, except in invocations. -/
theorem unmarked_extract (node : Node) :
    Sorted (·.Throughout Node.parts Node.Unmarked) node.extract := by
  induction node using Node.induction with
  | step node ih =>
    cases node with
    | text | «variable» | invocation | slotOutput | empty =>
      exact ⟨by simpa [Node.extract] using .intro (by simp [Node.Unmarked]) (by simp [Node.parts]),
        by simp [Node.extract]⟩
    | conditional => exact sorted_branches ih (.intro (by simp [Node.Unmarked]) ·)
    | loop => exact sorted_branches ih (.intro (by simp [Node.Unmarked]) ·)
    | marker =>
      refine sorted_marker ih fun isDefault inside => .intro ?_ inside
      rintro _ _ _ _ ⟨⟩
      exact isDefault

/-- What holds everywhere in a node holds of a marker where each taken one stood. -/
theorem marker_of_mem_extract {P : Node → Prop} {node : Node} (h : node.Everywhere P) :
    ∀ m ∈ node.extract.2, ∃ content, P (.marker m.name content m.span m.line) := by
  induction h with
  | @intro node here _ ih =>
    intro m hm
    cases node with
    | text | «variable» | invocation | slotOutput | empty => simp [Node.extract] at hm
    | conditional | loop =>
      simp only [Node.extract, extractAll_eq, List.mem_append, List.mem_flatMap] at hm
      rcases hm with ⟨n, hn, hm⟩ | ⟨n, hn, hm⟩
      · exact ih n (List.mem_append_left _ hn) m hm
      · exact ih n (List.mem_append_right _ hn) m hm
    | marker name content span line =>
      by_cases isDefault : name = defaultSlot
      · simp only [Node.extract, extractAll_eq, if_pos isDefault, List.mem_flatMap] at hm
        obtain ⟨n, hn, hm⟩ := hm
        exact ih n hn m hm
      · simp only [Node.extract, extractAll_eq, if_neg isDefault, List.mem_cons,
          List.mem_flatMap] at hm
        rcases hm with rfl | ⟨n, hn, hm⟩
        · exact ⟨content, here⟩
        · exact ih n hn m hm

theorem everywhere_spliceDefault {P : Node → Prop} {ns : List Node}
    (h : ∀ n ∈ ns, n.Everywhere P) : ∀ n ∈ spliceDefault ns, n.Everywhere P := by
  fun_induction spliceDefault ns with
  | case1 => simp
  | case2 content span line ns ih =>
    obtain ⟨marker, rest⟩ := List.forall_mem_cons.1 h
    intro n hn
    rcases List.mem_append.1 hn with hn | hn
    · exact marker.inside n hn
    · exact ih rest n hn
  | case3 _ _ _ _ ns _ ih | case4 _ ns _ ih =>
    obtain ⟨here, rest⟩ := List.forall_mem_cons.1 h
    exact List.forall_mem_cons.2 ⟨here, ih rest⟩

theorem forall_bodySlots {P : Node → Prop} {body : List Node}
    (h : Sorted P (extractAll (spliceDefault body))) :
    ∀ slot ∈ bodySlots body, ∀ n ∈ slot.content, P n := by
  intro slot hs
  rcases List.mem_cons.1 hs with rfl | hs
  · exact h.1
  · obtain ⟨m, hm, rfl⟩ := List.mem_map.1 hs
    exact h.2 m hm

/-- What holds everywhere in a body holds everywhere in its slots. -/
theorem bodySlots_everywhere {P : Node → Prop} (head : Node.HeadOnly P) {body : List Node}
    (h : ∀ n ∈ body, n.Everywhere P) :
    ∀ slot ∈ bodySlots body, ∀ n ∈ slot.content, n.Everywhere P :=
  forall_bodySlots (sorted_extractAll fun n hn =>
    everywhere_extract head (everywhere_spliceDefault h n hn))

/-- No named marker stays in a slot, except in the invocations in it. -/
theorem bodySlots_unmarked (body : List Node) :
    ∀ slot ∈ bodySlots body, ∀ n ∈ slot.content, n.Throughout Node.parts Node.Unmarked :=
  forall_bodySlots (sorted_extractAll fun n _ => unmarked_extract n)

end SlotTemplate

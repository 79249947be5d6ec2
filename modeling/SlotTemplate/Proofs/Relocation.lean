import SlotTemplate.Proofs.Tree.Partition

/-!
# Moving to other places

What is read from a source says where it stands: spans are ranges of offsets, and lines are counted.
A relocation changes these places and nothing else.

* `Relocation.shift`: the places of a source behind another one;
* `bodySlots_recast`: a body is divided into the same slots after a change that keeps its shape;
* `bodySlots_relocate`: so it is wherever it stands.
-/

namespace SlotTemplate

/-- A change of the offsets and the lines of a source. -/
structure Relocation where
  offset : Nat → Nat
  line : Nat → Nat

/-- The places behind so many bytes and line breaks. -/
def Relocation.shift (bytes lines : Nat) : Relocation := ⟨(· + bytes), (· + lines)⟩

/-- All places become the first one, which stands for none. -/
def Relocation.erased : Relocation := ⟨fun _ => 0, fun _ => 0⟩

variable (r : Relocation)

def Span.relocate (s : Span) : Span := ⟨r.offset s.start, r.offset s.stop⟩

def Tag.relocate (t : Tag) : Tag :=
  ⟨t.contents, r.offset t.offset, t.span.relocate r, r.line t.line⟩

namespace Markup

def Token.relocate : Token → Token
  | .text s => .text s
  | .variable contents offset => .variable contents (r.offset offset)
  | .block tag => .block (tag.relocate r)

def Lexeme.relocate (l : Lexeme) : Lexeme :=
  ⟨l.token.relocate r, l.span.relocate r, r.line l.line⟩

end Markup

def Filter.relocate (f : Filter) : Filter := ⟨f.kind, f.span.relocate r⟩

def Expr.relocate (e : Expr) : Expr :=
  ⟨e.primary, e.filters.map (·.relocate r), e.span.relocate r⟩

def Argument.relocate (a : Argument) : Argument :=
  ⟨a.name, a.value.relocate r, a.span.relocate r⟩

mutual

def Node.relocate : Node → Node
  | .text s => .text s
  | .variable e => .variable (e.relocate r)
  | .conditional negated e a b =>
    .conditional negated (e.relocate r) (relocateAll a) (relocateAll b)
  | .loop name e body instead => .loop name (e.relocate r) (relocateAll body) (relocateAll instead)
  | .invocation c tag args slots span =>
    .invocation c tag (args.map (·.relocate r)) (relocateSlots slots) (span.relocate r)
  | .marker name content span line =>
    .marker name (relocateAll content) (span.relocate r) (r.line line)
  | .slotOutput name => .slotOutput name
  | .empty => .empty

def relocateAll : List Node → List Node
  | [] => []
  | node :: nodes => node.relocate :: relocateAll nodes

def relocateSlots : List Slot → List Slot
  | [] => []
  | ⟨name, content⟩ :: slots => ⟨name, relocateAll content⟩ :: relocateSlots slots

end

theorem relocateAll_eq_map (ns : List Node) : relocateAll r ns = ns.map (Node.relocate r) := by
  induction ns with
  | nil => rfl
  | cons n ns ih => rw [relocateAll, ih, List.map_cons]

theorem relocateSlots_eq_map (slots : List Slot) :
    relocateSlots r slots = slots.map fun slot => ⟨slot.name, relocateAll r slot.content⟩ := by
  induction slots with
  | nil => rfl
  | cons slot slots ih =>
    obtain ⟨name, content⟩ := slot
    rw [relocateSlots, ih, List.map_cons]

theorem relocateSlots_names (slots : List Slot) :
    (relocateSlots r slots).map Slot.name = slots.map Slot.name := by
  rw [relocateSlots_eq_map, List.map_map]
  rfl

@[simp] theorem Expr.erased_relocate (e : Expr) :
    (e.relocate r).relocate .erased = e.relocate .erased := by
  simp only [Expr.relocate, List.map_map]
  rfl

@[simp] theorem Argument.erased_relocate (a : Argument) :
    (a.relocate r).relocate .erased = a.relocate .erased := by
  simp only [Argument.relocate, Expr.erased_relocate]
  rfl

theorem Node.erased_relocate (node : Node) :
    (node.relocate r).relocate .erased = node.relocate .erased := by
  induction node using Node.induction with
  | step node ih =>
    have inside {ns : List Node} (below : ∀ n ∈ ns, n ∈ node.children) :
        relocateAll .erased (relocateAll r ns) = relocateAll .erased ns := by
      rw [relocateAll_eq_map, relocateAll_eq_map, relocateAll_eq_map, List.map_map]
      exact List.map_congr_left fun n hn => ih n (below n hn)
    cases node with
    | text | slotOutput | empty => rfl
    | «variable» e => simp only [Node.relocate, Expr.erased_relocate]
    | conditional negated e a b | loop name e a b =>
      have first := inside fun n => List.mem_append_left b
      have second := inside fun n => List.mem_append_right a
      simp only [Node.relocate, Expr.erased_relocate, first, second]
    | invocation c tag args slots span =>
      have contents : relocateSlots .erased (relocateSlots r slots) =
          relocateSlots .erased slots := by
        simp only [relocateSlots_eq_map, List.map_map]
        refine List.map_congr_left fun slot hs => ?_
        exact congrArg (Slot.mk slot.name) (inside fun n hn => List.mem_flatMap.2 ⟨slot, hs, hn⟩)
      simp only [Node.relocate, contents, List.map_map, Function.comp_def,
        Argument.erased_relocate]
      rfl
    | marker name content span line =>
      have same : relocateAll .erased (relocateAll r content) = relocateAll .erased content :=
        inside fun n => id
      simp only [Node.relocate, same]
      rfl

/-! ## Slots of a body -/

/-- A node that a body keeps as it is. -/
inductive Node.Whole : Node → Prop where
  | text (s : String) : Whole (.text s)
  | variable (e : Expr) : Whole (.variable e)
  | invocation (c : Component) (tag : String) (args : List Argument) (slots : List Slot)
    (span : Span) : Whole (.invocation c tag args slots span)
  | slotOutput (name : String) : Whole (.slotOutput name)
  | empty : Whole .empty

/-- A change of nodes that moves them and goes through the parts of each; only the nodes that a body
keeps as they are may change otherwise. -/
structure Recasts (f : Node → Node) : Prop where
  conditional (negated : Bool) (e : Expr) (a b : List Node) :
    f (.conditional negated e a b) = .conditional negated (e.relocate r) (a.map f) (b.map f)
  loop (name : String) (e : Expr) (body instead : List Node) :
    f (.loop name e body instead) = .loop name (e.relocate r) (body.map f) (instead.map f)
  marker (name : String) (content : List Node) (span : Span) (line : Nat) :
    f (.marker name content span line) =
      .marker name (content.map f) (span.relocate r) (r.line line)
  whole {n : Node} (h : n.Whole) : (f n).Whole

theorem recasts_relocate : Recasts r (Node.relocate r) where
  conditional _ _ _ _ := by rw [Node.relocate, relocateAll_eq_map, relocateAll_eq_map]
  loop _ _ _ _ := by rw [Node.relocate, relocateAll_eq_map, relocateAll_eq_map]
  marker _ _ _ _ := by rw [Node.relocate, relocateAll_eq_map]
  whole h := by cases h <;> constructor

theorem Node.Whole.extract {n : Node} (h : n.Whole) : n.extract = ([n], []) := by
  cases h <;> rfl

theorem Node.Whole.splice {n : Node} (h : n.Whole) (ns : List Node) :
    spliceDefault (n :: ns) = n :: spliceDefault ns := by
  cases h <;> rfl

section

variable {r} {f : Node → Node}

/-- What is kept and taken of a node, after a change. -/
def recastParts (r : Relocation) (f : Node → Node) (parts : List Node × List Marker) :
    List Node × List Marker :=
  (parts.1.map f, parts.2.map fun m =>
    ⟨m.name, m.content.map f, m.span.relocate r, r.line m.line⟩)

theorem extractAll_recast {ns : List Node}
    (h : ∀ n ∈ ns, (f n).extract = recastParts r f n.extract) :
    extractAll (ns.map f) = recastParts r f (extractAll ns) := by
  induction ns with
  | nil => rfl
  | cons n ns ih =>
    obtain ⟨here, others⟩ := List.forall_mem_cons.1 h
    simp only [List.map_cons, extractAll, here, ih others, recastParts, List.map_append]

theorem extract_recast (h : Recasts r f) (node : Node) :
    (f node).extract = recastParts r f node.extract := by
  have kept {n : Node} (whole : n.Whole) : (f n).extract = recastParts r f n.extract := by
    rw [(h.whole whole).extract, whole.extract]
    rfl
  induction node using Node.induction with
  | step node ih =>
    cases node with
    | text | «variable» | invocation | slotOutput | empty => exact kept (by constructor)
    | conditional negated e a b =>
      have first := extractAll_recast fun n hn => ih n (List.mem_append_left b hn)
      have second := extractAll_recast fun n hn => ih n (List.mem_append_right a hn)
      simp only [h.conditional, Node.extract, first, second, recastParts, List.map_append,
        List.map_cons, List.map_nil]
    | loop name e a b =>
      have first := extractAll_recast fun n hn => ih n (List.mem_append_left b hn)
      have second := extractAll_recast fun n hn => ih n (List.mem_append_right a hn)
      simp only [h.loop, Node.extract, first, second, recastParts, List.map_append,
        List.map_cons, List.map_nil]
    | marker name content span line =>
      have inner : extractAll (content.map f) = recastParts r f (extractAll content) :=
        extractAll_recast ih
      simp only [h.marker, Node.extract, inner, recastParts]
      split
      · simp only [List.map_cons, List.map_nil, h.marker]
      · rfl

theorem spliceDefault_recast (h : Recasts r f) (ns : List Node) :
    spliceDefault (ns.map f) = (spliceDefault ns).map f := by
  induction ns with
  | nil => rfl
  | cons n ns ih =>
    have kept (whole : n.Whole) :
        spliceDefault ((n :: ns).map f) = (spliceDefault (n :: ns)).map f := by
      rw [List.map_cons, (h.whole whole).splice, ih, whole.splice, List.map_cons]
    cases n with
    | text | «variable» | invocation | slotOutput | empty => exact kept (by constructor)
    | conditional => simp only [List.map_cons, h.conditional, spliceDefault, ih]
    | loop => simp only [List.map_cons, h.loop, spliceDefault, ih]
    | marker name content span line =>
      simp only [List.map_cons, h.marker, spliceDefault, ih]
      split
      · rw [List.map_append]
      · rw [List.map_cons, h.marker]

/-- A body is divided into the same slots after a change. -/
theorem bodySlots_recast (h : Recasts r f) (body : List Node) :
    bodySlots (body.map f) = (bodySlots body).map fun slot => ⟨slot.name, slot.content.map f⟩ := by
  have parts : extractAll ((spliceDefault body).map f) =
      recastParts r f (extractAll (spliceDefault body)) :=
    extractAll_recast fun n _ => extract_recast h n
  simp only [bodySlots, spliceDefault_recast h, parts, recastParts, List.map_cons, List.map_map,
    Function.comp_def]

end

/-- Places play no part where a body is divided into slots. -/
theorem bodySlots_relocate (body : List Node) :
    bodySlots (relocateAll r body) = relocateSlots r (bodySlots body) := by
  simp only [relocateAll_eq_map, bodySlots_recast (recasts_relocate r), relocateSlots_eq_map]

end SlotTemplate

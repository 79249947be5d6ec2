import SlotTemplate.Proofs.Signature
import SlotTemplate.Proofs.WellFormed

/-!
# The components in play

* `Engine.AllComponents`: a property of all components that the tags of an engine invoke;
* `Template.CompiledWith.invokes`: such an engine compiles templates that invoke no others.
-/

namespace SlotTemplate

/-- The component that a tag invokes, if it invokes one. -/
def Binding.components : Binding → List Component
  | .inline c => [c]
  | .block c => [c]
  | _ => []

/-- A component hands its arguments to its template. -/
def Component.HandsOver (c : Component) : Prop := ∀ slots args, c.produce slots args = .ok args

namespace Component

/-- The variables that stand for the slots, whatever the arguments are. -/
def reserved (slots : SlotMap) : Data :=
  Dict.ofList [(defaultSlot, .safe (slots.get defaultSlot)), ("slots", .slots slots)]

theorem get?_reserved_slot (slots : SlotMap) :
    (reserved slots).get? defaultSlot = some (.safe (slots.get defaultSlot)) := by
  simp [reserved, Dict.ofList, Dict.insertAll, Dict.get?_insert, defaultSlot]

theorem get?_reserved_slots (slots : SlotMap) :
    (reserved slots).get? "slots" = some (.slots slots) := by
  simp [reserved, Dict.ofList, Dict.insertAll]

theorem get?_reserved_other (slots : SlotMap) {name : String} (slot : name ≠ defaultSlot)
    (other : name ≠ "slots") : (reserved slots).get? name = none := by
  simp [reserved, Dict.ofList, Dict.insertAll, Dict.get?_insert, slot.symm, other.symm]

/-- The arguments that suit a component go over the variables that stand for the slots. -/
theorem HandsOver.context {c : Component} (h : c.HandsOver) (slots : SlotMap) (args : Data) :
    c.context slots args =
      (c.signature.bind args).map fun bound => (reserved slots).insertAll bound.entries := by
  unfold Component.context
  cases c.signature.bind args with
  | error cause => rfl
  | ok bound =>
    simp only [h slots bound]
    rfl

end Component

/-- The variables that a component hands over have a property if its defaults, the arguments and
those that stand for the slots have it. -/
theorem Component.HandsOver.context_all {P : Value → Prop} {c : Component} (h : c.HandsOver)
    (defaults : ∀ p ∈ c.signature.params, ∀ v, p.default? = some v → P v) {slots : SlotMap}
    (slot : P (.safe (slots.get defaultSlot))) (all : P (.slots slots)) {args data : Data}
    (ha : args.All P) (made : c.context slots args = .ok data) : data.All P := by
  rw [h.context] at made
  obtain ⟨bound, suits, rfl⟩ := map_eq_ok_iff.1 made
  have filled : bound.All P := Signature.all_of_bind defaults suits ha
  refine (Dict.All.ofList ?_).insertAll fun p hp => filled p.2 (List.mem_map_of_mem hp)
  exact List.forall_mem_cons.2 ⟨slot, List.forall_mem_singleton.2 all⟩

/-- A property of all components that the tags of an engine invoke. -/
structure Engine.AllComponents (e : Engine) (K : Component → Prop) : Prop where
  builtins : e.builtins.tags.All fun b => ∀ c ∈ b.components, K c
  libraries : e.libraries.All fun l => l.tags.All fun b => ∀ c ∈ b.components, K c

theorem Engine.default_components (K : Component → Prop) : Engine.default.AllComponents K := by
  refine ⟨((((Dict.all_empty.insert ?_).insert ?_).insert ?_).insert ?_).insert ?_,
    Dict.all_empty⟩ <;> simp [Binding.components]

theorem Library.component_all {l : Library} {c : Component} {K : Component → Prop}
    (h : l.tags.All fun b => ∀ c ∈ b.components, K c) (hc : K c) :
    (l.component c).tags.All fun b => ∀ c ∈ b.components, K c :=
  (h.insert (by simpa [Binding.components])).insert (by simpa [Binding.components])

theorem Engine.AllComponents.addBuiltins {e : Engine} {l : Library} {K : Component → Prop}
    (h : e.AllComponents K) (hl : l.tags.All fun b => ∀ c ∈ b.components, K c) :
    (e.addBuiltins l).AllComponents K :=
  ⟨h.builtins.insertAll fun p hp => hl p.2 (List.mem_map_of_mem hp), h.libraries⟩

theorem Engine.AllComponents.addTemplate {e : Engine} {K : Component → Prop}
    (h : e.AllComponents K) (name source : String) : (e.addTemplate name source).AllComponents K :=
  ⟨h.builtins, h.libraries⟩

/-- A template was compiled by an engine whose components have a property. -/
def Template.CompiledWith (t : Template) (K : Component → Prop) : Prop :=
  ∃ (e : Engine) (name source : String), e.AllComponents K ∧ e.compileNamed name source = .ok t

theorem Loads.all {libraries : Dict Library} {names : List String} {tags tags' : Dict Binding}
    {P : Binding → Prop} (h : Loads libraries names tags tags')
    (hl : libraries.All fun l => l.tags.All P) (ht : tags.All P) : tags'.All P := by
  induction h with
  | nil => exact ht
  | cons found _ ih =>
    exact ih (ht.insertAll fun p hp => hl.get? found p.2 (List.mem_map_of_mem hp))

/-- All tags of a derivation are bound in the table it starts with or in a library. -/
theorem Derives.heads_all {libraries : Dict Library} {ends : List String}
    {tags tags' : Dict Binding} {d : Derivation} {ns : List Node} {P : Binding → Prop}
    (h : Derives libraries ends tags d ns tags') (hl : libraries.All fun l => l.tags.All P)
    (ht : tags.All P) : (∀ head ∈ d.heads, P head.binding) ∧ tags'.All P := by
  induction h with
  | nil => exact ⟨List.forall_mem_nil _, ht⟩
  | text _ _ ih | output _ _ _ ih => exact ih ht
  | load opens _ _ loads _ ih =>
    obtain ⟨heads, tags⟩ := ih (loads.all hl ht)
    exact ⟨List.forall_mem_cons.2 ⟨ht.get? opens.bound, heads⟩, tags⟩
  | single opens _ _ _ ih =>
    obtain ⟨heads, tags⟩ := ih ht
    exact ⟨List.forall_mem_cons.2 ⟨ht.get? opens.bound, heads⟩, tags⟩
  | block opens _ _ _ _ _ ihc ih =>
    obtain ⟨inner, between⟩ := ihc ht
    obtain ⟨heads, tags⟩ := ih between
    exact ⟨List.forall_mem_cons.2 ⟨ht.get? opens.bound,
      List.forall_mem_append.2 ⟨inner, heads⟩⟩, tags⟩
  | divided opens _ _ _ _ _ _ _ ihc ihm ih =>
    obtain ⟨first, between⟩ := ihc ht
    obtain ⟨second, behind⟩ := ihm between
    obtain ⟨heads, tags⟩ := ih behind
    exact ⟨List.forall_mem_cons.2 ⟨ht.get? opens.bound,
      List.forall_mem_append.2 ⟨first, List.forall_mem_append.2 ⟨second, heads⟩⟩⟩, tags⟩

/-- A template invokes no components but those that the tags of its engine invoke. -/
theorem Template.CompiledWith.invokes {K : Component → Prop} {t : Template}
    (h : t.CompiledWith K) : ∀ n ∈ t.nodes, n.Everywhere fun n => ∀ c ∈ n.component?, K c := by
  obtain ⟨e, name, source, components, compiled⟩ := h
  obtain ⟨d, tags, -, derives⟩ := Engine.derives_of_compileNamed compiled
  have heads := (derives.heads_all components.libraries components.builtins).1
  intro n hn
  refine (derives.suitsTags n hn).mono fun n h c hc => ?_
  cases n with
  | invocation c' name args slots span =>
    obtain rfl : c' = c := Option.some.inj hc
    obtain ⟨head, hh, -, -, ⟨b, -⟩ | ⟨b, -⟩⟩ := (h _ _ _ _ _ rfl).origin
    · exact heads head hh c' (by simp [b, Binding.components])
    · exact heads head hh c' (by simp [b, Binding.components])
  | _ => cases hc

end SlotTemplate

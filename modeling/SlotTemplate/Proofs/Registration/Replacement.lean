import SlotTemplate.Proofs.Components
import SlotTemplate.Proofs.Registration

/-!
# Components that replace each other

A component is entered under its qualified name, whatever its tags are; a tag is bound under its own
name, whatever component it invokes. So a component that replaces another one under a qualified name
takes over the tags that its entry binds, and no others.

* `Library.invokes_iff`: a tag invokes the component of the last entry that binds it;
* `Library.left_behind_iff`: the tags that a replaced component keeps, and when there are none.
-/

namespace SlotTemplate

namespace Entry

/-- The names of the tags that an entry binds. -/
def tagNames (entry : Entry) : List String := entry.bindings.map Prod.fst

/-- An entry is no tag that invokes a component which it does not enter. -/
def IsPlain (entry : Entry) : Prop :=
  ∀ name b, entry = .tag name b → b.components = []

/-- An entry takes over the tags of an entry whose component it replaces. -/
def Covers (later entry : Entry) : Prop :=
  ∀ c ∈ entry.components, ∀ c' ∈ later.components, c'.qualifiedName = c.qualifiedName →
    entry.tagNames ⊆ later.tagNames

variable {entry : Entry}

/-- The tags of an entry invoke what the entry enters. -/
theorem components_of_binding (plain : entry.IsPlain) :
    ∀ p ∈ entry.bindings, p.2.components = entry.components := by
  cases entry with
  | tag name b => exact List.forall_mem_singleton.2 (plain name b rfl)
  | component c => simp [bindings, components, Binding.components]
  | inline c | block c => exact List.forall_mem_singleton.2 rfl

theorem components_eq_singleton {c : Component} (h : c ∈ entry.components) :
    entry.components = [c] := by
  cases entry with
  | tag => cases h
  | component c' | inline c' | block c' =>
    exact congrArg (List.cons · []) (List.mem_singleton.1 h).symm

end Entry

namespace Library

/-- A tag invokes a component. -/
def Invokes (l : Library) (n : String) (c : Component) : Prop :=
  ∃ b, l.binding? n = some b ∧ c ∈ b.components

/-- No tag invokes a component that was replaced under its qualified name. -/
def Current (l : Library) : Prop :=
  ∀ n c, l.Invokes n c → l.components.get? c.qualifiedName = some c

variable {rs : List Registration} {n : String} {c c' : Component}

/-- A tag invokes the component of the last entry that binds it. -/
theorem invokes_iff (plain : ∀ entry ∈ allEntries rs, entry.IsPlain) :
    (register rs).Invokes n c ↔ ∃ before entry after, allEntries rs = before ++ entry :: after ∧
      entry.components = [c] ∧ n ∈ entry.tagNames ∧ ∀ later ∈ after, n ∉ later.tagNames := by
  have others {after : List Entry} : (∀ p ∈ after.flatMap Entry.bindings, ¬ p.1 = n) ↔
      ∀ later ∈ after, n ∉ later.tagNames := by
    simp only [List.forall_mem_flatMap, Entry.tagNames, List.mem_map, not_exists, not_and]
  constructor
  · rintro ⟨b, bound, invokes⟩
    rw [binding?_register, Dict.get?_ofList_eq_some_iff, allBindings, isLast_flatMap] at bound
    obtain ⟨before, entry, after, split, ⟨front, back, here, -, -⟩, later⟩ := bound
    have mem : (n, b) ∈ entry.bindings := by simp [here]
    have same := entry.components_of_binding (plain entry (by simp [split])) _ mem
    exact ⟨before, entry, after, split, entry.components_eq_singleton (same ▸ invokes),
      List.mem_map_of_mem mem, others.1 later⟩
  · rintro ⟨before, entry, after, split, component, named, later⟩
    obtain ⟨p, mem, rfl⟩ := List.mem_map.1 named
    obtain ⟨q, last⟩ := exists_isLast (P := (·.1 = p.1)) ⟨p, mem, rfl⟩
    obtain ⟨front, back, here, same, -⟩ := id last
    have mem : q ∈ entry.bindings := by simp [here]
    have invokes := entry.components_of_binding (plain entry (by simp [split])) q mem
    refine ⟨q.2, ?_, by rw [invokes, component]; exact List.mem_cons_self⟩
    rw [binding?_register, Dict.get?_ofList_eq_some_iff, allBindings, isLast_flatMap]
    exact ⟨before, entry, after, split, same ▸ last, others.2 later⟩

/-- A component that is entered stays entered until another one is, under its qualified name. -/
theorem entered_iff {before after : List Entry} {entry : Entry}
    (split : allEntries rs = before ++ entry :: after) (enters : entry.components = [c]) :
    (register rs).components.get? c.qualifiedName = some c' ↔
      IsLast (·.qualifiedName = c.qualifiedName) (after.flatMap Entry.components) c' ∨
        c' = c ∧ ∀ d ∈ after.flatMap Entry.components, ¬ d.qualifiedName = c.qualifiedName := by
  rw [entered_register_iff, allComponents, split, List.flatMap_append, List.flatMap_cons, enters]
  exact isLast_append_cons rfl

/-- Among some entries, one that binds a tag to a component is followed by one that replaces the
component, and none of those that follow binds the tag. -/
def LeavesBehind (entries : List Entry) (n : String) (c c' : Component) : Prop :=
  ∃ before entry after, entries = before ++ entry :: after ∧ entry.components = [c] ∧
    n ∈ entry.tagNames ∧ (∀ later ∈ after, n ∉ later.tagNames) ∧
    IsLast (·.qualifiedName = c.qualifiedName) (after.flatMap Entry.components) c' ∧ c' ≠ c

/-- Under the qualified name of a component that a tag invokes some component is entered. It is
another one exactly if the component was replaced by entries that do not bind the tag. So if each
entry takes over the tags of those before it whose component it replaces, no replaced component
keeps a tag. -/
theorem left_behind_iff (plain : ∀ entry ∈ allEntries rs, entry.IsPlain) :
    let l := register rs
    (∀ n c, l.Invokes n c → ∃ c', l.components.get? c.qualifiedName = some c') ∧
    (∀ n c c', l.Invokes n c ∧ l.components.get? c.qualifiedName = some c' ∧ c' ≠ c ↔
      LeavesBehind (allEntries rs) n c c') ∧
    ((allEntries rs).Pairwise (fun entry later => later.Covers entry) → l.Current) := by
  intro l
  have known : ∀ n c, l.Invokes n c → ∃ c', l.components.get? c.qualifiedName = some c' := by
    intro n c invokes
    obtain ⟨before, entry, after, split, enters, -, -⟩ := (invokes_iff plain).1 invokes
    by_cases replaced : ∃ d ∈ after.flatMap Entry.components, d.qualifiedName = c.qualifiedName
    · obtain ⟨c', last⟩ := exists_isLast replaced
      exact ⟨c', (entered_iff split enters).2 (.inl last)⟩
    · exact ⟨c, (entered_iff split enters).2
        (.inr ⟨rfl, fun d hd same => replaced ⟨d, hd, same⟩⟩)⟩
  have left : ∀ n c c', l.Invokes n c ∧ l.components.get? c.qualifiedName = some c' ∧ c' ≠ c ↔
      LeavesBehind (allEntries rs) n c c' := by
    intro n c c'
    rw [invokes_iff plain]
    constructor
    · rintro ⟨⟨before, entry, after, split, enters, binds, later⟩, entered, other⟩
      rcases (entered_iff split enters).1 entered with last | ⟨same, -⟩
      · exact ⟨before, entry, after, split, enters, binds, later, last, other⟩
      · exact absurd same other
    · rintro ⟨before, entry, after, split, enters, binds, later, last, other⟩
      exact ⟨⟨before, entry, after, split, enters, binds, later⟩,
        (entered_iff split enters).2 (.inl last), other⟩
  refine ⟨known, left, fun covers n c invokes => ?_⟩
  obtain ⟨c', entered⟩ := known n c invokes
  by_cases same : c' = c
  · rw [entered, same]
  · -- the entry of the other component has bound the tag
    obtain ⟨before, entry, after, split, enters, binds, later, last, -⟩ :=
      (left n c c').1 ⟨invokes, entered, same⟩
    obtain ⟨front, back, components, named, -⟩ := last
    have mem : c' ∈ after.flatMap Entry.components := by simp [components]
    obtain ⟨other, behind, enters'⟩ := List.mem_flatMap.1 mem
    rw [split] at covers
    have covered := (List.pairwise_cons.1 (List.pairwise_append.1 covers).2.1).1 other behind
    exact absurd (covered c (by simp [enters]) c' enters' named binds) (later other behind)

/-- What is merged replaces a component in the tags that it binds: the inline form alone leaves the
block tag behind, and both forms leave no tag behind. -/
theorem left_behind_card :
    let old := (Component.named "card").withTemplate "old.html"
    let new := (Component.named "card").withTemplate "new.html"
    let l := register [.entry (.component old), .merge [.entry (.inline new)]]
    (l.Invokes "card" old ∧ l.components.get? "card" = some new ∧ new ≠ old) ∧
      (register [.entry (.inline old), .merge [.entry (.component new)]]).Current := by
  intro old new l
  have inline : old.inlineTag = "card/" ∧ new.inlineTag = "card/" := by decide +kernel
  have block : old.openTag = "card" ∧ new.openTag = "card" := by decide +kernel
  have other : new ≠ old := by
    intro same
    have template := congrArg Component.template? same
    revert template
    decide
  have plain {entries : List Entry} (h : ∀ name b, .tag name b ∉ entries) :
      ∀ entry ∈ entries, entry.IsPlain := by
    rintro entry mem name b rfl
    exact absurd mem (h name b)
  constructor
  · refine ((left_behind_iff (plain (by simp [allEntries, Registration.entries]))).2.1
      "card" old new).2 ⟨[], .component old, [.inline new], rfl, rfl, ?_, ?_,
        ⟨[], [], rfl, rfl, List.forall_mem_nil _⟩, other⟩
    · simp [Entry.tagNames, Entry.bindings, block]
    · simp [Entry.tagNames, Entry.bindings, inline]
  · refine (left_behind_iff (plain (by simp [allEntries, Registration.entries]))).2.2 ?_
    simp [allEntries, Registration.entries, Entry.Covers, Entry.tagNames, Entry.bindings, inline]

/-- The block tag stays bound to a component that was replaced in its inline form, so that a source
still renders by the template of the one that was replaced. -/
theorem replaced_inline_alone :
    let old := (Component.named "card").withTemplate "old.html"
    let new := (Component.named "card").withTemplate "new.html"
    let l := register [.entry (.component old), .entry (.inline new)]
    let e := ((Engine.default.addBuiltins l).addTemplate "old.html" "old").addTemplate "new.html"
      "new"
    l.binding? "card" = some (.block old) ∧ l.components.get? "card" = some new ∧ ¬ l.Current ∧
      (e.renderSource (Files.inDirectory []) "{% card %}{% /card %}"
        Dict.empty).1.mapError RenderError.message = .ok "old" := by
  intro old new l e
  have block : old.openTag = "card" := by decide +kernel
  have inline : new.inlineTag ≠ "card" := by decide +kernel
  have before : (empty.component old).binding? "card" = some (.block old) := by
    rw [component, binding?_tag, if_pos block]
  have bound : l.binding? "card" = some (.block old) :=
    ((empty.component old).binding?_tag _ "card" _).trans ((if_neg inline).trans before)
  have entered : l.components.get? "card" = some new := rfl
  refine ⟨bound, entered, fun current => ?_, by decide +kernel⟩
  have kept := entered.symm.trans (current "card" old ⟨_, bound, List.mem_cons_self⟩)
  have template := congrArg (Option.map (·.template?)) kept
  revert template
  decide

end Library

end SlotTemplate

import SlotTemplate.Manifest
import SlotTemplate.Proofs.Loading

/-!
# Libraries from registrations

A library is made by registrations, one after another. Each entry binds tags, and may enter a
component; to merge a library is to repeat its entries.

* `registerAll_follows`: what registrations add to a library, whatever they are;
* `Library.last_registration_wins`: a library tells of each tag and of each qualified name what was
  said of it last. So do the libraries of manifests and the builtin tags of engines.
-/

namespace SlotTemplate

/-- What can be registered in a library. -/
inductive Entry where
  | tag (name : String) (binding : Binding)
  | component (c : Component)
  | inline (c : Component)
  | block (c : Component)

namespace Entry

def register (l : Library) : Entry → Library
  | .tag name binding => l.tag name binding
  | .component c => l.component c
  | .inline c => l.inlineComponent c
  | .block c => l.blockComponent c

/-- The tags that are bound, in order. A closing tag is not among them. -/
def bindings : Entry → List (String × Binding)
  | .tag name binding => [(name, binding)]
  | .component c => [(c.inlineTag, .inline c), (c.openTag, .block c)]
  | .inline c => [(c.inlineTag, .inline c)]
  | .block c => [(c.openTag, .block c)]

/-- The component that is entered, if one is. -/
def components : Entry → List Component
  | .tag _ _ => []
  | .component c => [c]
  | .inline c => [c]
  | .block c => [c]

end Entry

/-- An operation on a library. -/
inductive Registration where
  | entry (entry : Entry)
  /-- Takes over a library that was made by registrations of its own. -/
  | merge (others : List Registration)

mutual

/-- A library after a registration. -/
def Registration.apply (l : Library) : Registration → Library
  | .entry entry => entry.register l
  | .merge others => l.merge (registerAll .empty others)

/-- A library after registrations, one after another. -/
def registerAll (l : Library) : List Registration → Library
  | [] => l
  | r :: rs => registerAll (r.apply l) rs

end

mutual

/-- The entries that a registration makes, in order. -/
def Registration.entries : Registration → List Entry
  | .entry entry => [entry]
  | .merge others => allEntries others

def allEntries : List Registration → List Entry
  | [] => []
  | r :: rs => r.entries ++ allEntries rs

end

/-- The tags that registrations bind, in order. -/
def allBindings (rs : List Registration) : List (String × Binding) :=
  (allEntries rs).flatMap Entry.bindings

/-- The components that registrations enter, in order. -/
def allComponents (rs : List Registration) : List Component :=
  (allEntries rs).flatMap Entry.components

namespace Library

/-- The library that registrations make. -/
def register (rs : List Registration) : Library := registerAll .empty rs

/-- The registrations of the tags of every template. -/
def builtinRegistrations : List Registration :=
  [.entry (.tag "if" .conditional), .entry (.tag "for" .loop), .entry (.tag "load" .load),
    .entry (.tag "slot" .slot), .entry (.tag "slot/" .slotOutput)]

theorem register_builtinRegistrations : register builtinRegistrations = builtin := rfl

end Library

theorem registerAll_append (l : Library) (rs rs' : List Registration) :
    registerAll l (rs ++ rs') = registerAll (registerAll l rs) rs' := by
  induction rs generalizing l with
  | nil => rfl
  | cons r rs ih => exact ih (r.apply l)

theorem registerAll_entries (l : Library) (entries : List Entry) :
    registerAll l (entries.map .entry) = entries.foldl Entry.register l := by
  induction entries generalizing l with
  | nil => rfl
  | cons entry entries ih => exact ih (entry.register l)

theorem Entry.made_register {l : Library} (entry : Entry) (h : l.Made) :
    (entry.register l).Made := by
  cases entry with
  | tag name binding => exact .tag name binding h
  | component c => exact .tag _ _ (.enter c (.tag _ _ h))
  | inline c => exact .enter c (.tag _ _ h)
  | block c => exact .enter c (.tag _ _ h)

mutual

theorem Registration.made_apply {l : Library} (h : l.Made) : (r : Registration) → (r.apply l).Made
  | .entry entry => entry.made_register h
  | .merge others => .merge h (made_registerAll .empty others)

theorem made_registerAll {l : Library} (h : l.Made) :
    (rs : List Registration) → (registerAll l rs).Made
  | [] => h
  | r :: rs => made_registerAll (r.made_apply h) rs

end

/-! ## What registrations add -/

namespace Library

/-- A component under its qualified name. -/
def keyed (c : Component) : String × Component := (c.qualifiedName, c)

/-- A library is another one after tags were bound and components entered, in order. -/
structure Follows (l' l : Library) (bs : List (String × Binding)) (cs : List Component) : Prop where
  bound : ∀ n, l'.binding? n = ((Dict.ofList bs).get? n).or (l.binding? n)
  entered : ∀ m, l'.components.get? m =
    ((Dict.ofList (cs.map keyed)).get? m).or (l.components.get? m)

namespace Follows

variable {l l' l'' : Library} {bs bs' : List (String × Binding)} {cs cs' : List Component}

theorem refl (l : Library) : l.Follows l [] [] := ⟨fun _ => rfl, fun _ => rfl⟩

theorem trans (h : l'.Follows l bs cs) (h' : l''.Follows l' bs' cs') :
    l''.Follows l (bs ++ bs') (cs ++ cs') where
  bound n := by rw [h'.bound, h.bound, Dict.get?_ofList_append, Option.or_assoc]
  entered m := by
    rw [h'.entered, h.entered, List.map_append, Dict.get?_ofList_append, Option.or_assoc]

theorem tag (l : Library) (name : String) (b : Binding) : (l.tag name b).Follows l [(name, b)] [] :=
  ⟨Dict.get?_insertAll l.tags [(name, b)], fun _ => rfl⟩

theorem enter (l : Library) (c : Component) : (l.enter c).Follows l [] [c] :=
  ⟨fun _ => rfl, Dict.get?_insertAll l.components [keyed c]⟩

/-- To merge a library is to do again what it was made by. -/
theorem merge (made : l'.Made) (h : l'.Follows .empty bs cs) : (l.merge l').Follows l bs cs where
  bound n := by
    have own : l'.binding? n = (Dict.ofList bs).get? n := (h.bound n).trans Option.or_none
    rw [← own]
    exact made.ordered.get?_insertAll
  entered m := by
    have own : l'.components.get? m = (Dict.ofList (cs.map keyed)).get? m :=
      (h.entered m).trans Option.or_none
    rw [← own]
    exact made.components_ordered.get?_insertAll

end Follows

end Library

open Library

theorem Entry.register_follows (l : Library) (entry : Entry) :
    (entry.register l).Follows l entry.bindings entry.components := by
  cases entry with
  | tag name binding => exact .tag l name binding
  | component c => exact ((Follows.tag _ _ _).trans (.enter _ c)).trans (.tag _ _ _)
  | inline c | block c => exact (Follows.tag _ _ _).trans (.enter _ c)

mutual

theorem Registration.apply_follows (l : Library) : (r : Registration) →
    (r.apply l).Follows l (r.entries.flatMap Entry.bindings) (r.entries.flatMap Entry.components)
  | .entry entry => by
    rw [Registration.entries, List.flatMap_singleton, List.flatMap_singleton]
    exact entry.register_follows l
  | .merge others => .merge (made_registerAll .empty others) (registerAll_follows .empty others)

theorem registerAll_follows (l : Library) :
    (rs : List Registration) → (registerAll l rs).Follows l (allBindings rs) (allComponents rs)
  | [] => .refl l
  | r :: rs => by
    rw [allBindings, allComponents, allEntries, List.flatMap_append, List.flatMap_append]
    exact (r.apply_follows l).trans (registerAll_follows (r.apply l) rs)

end

/-! ## What was said last -/

namespace Library

/-- A library says what its registrations said last. -/
structure Records (l : Library) (rs : List Registration) : Prop where
  bound : ∀ n b, l.binding? n = some b ↔ IsLast (·.1 = n) (allBindings rs) (n, b)
  unbound : ∀ n, l.binding? n = none ↔ ∀ p ∈ allBindings rs, p.1 ≠ n
  entered : ∀ m c, l.components.get? m = some c ↔
    IsLast (·.qualifiedName = m) (allComponents rs) c
  absent : ∀ m, l.components.get? m = none ↔ ∀ c ∈ allComponents rs, c.qualifiedName ≠ m
  /-- The names of tags stand in order, each one once. -/
  sorted : l.tagNames.Pairwise (· < ·)
  named : ∀ n, n ∈ l.tagNames ↔ ∃ b, (n, b) ∈ allBindings rs
  /-- A closing tag is bound by nothing but a registration of that very tag. -/
  closing : ∀ c : Component, (∀ p ∈ allBindings rs, p.1 ≠ c.closeTag) →
    l.binding? c.closeTag = none ∧ c.closeTag ∉ l.tagNames

section

variable {rs : List Registration} {n m : String} {c : Component}

theorem binding?_register (rs : List Registration) (n : String) :
    (register rs).binding? n = (Dict.ofList (allBindings rs)).get? n :=
  ((registerAll_follows .empty rs).bound n).trans Option.or_none

theorem components_register (rs : List Registration) (m : String) :
    (register rs).components.get? m = (Dict.ofList ((allComponents rs).map keyed)).get? m :=
  ((registerAll_follows .empty rs).entered m).trans Option.or_none

theorem unbound_register_iff :
    (register rs).binding? n = none ↔ ∀ p ∈ allBindings rs, p.1 ≠ n := by
  rw [binding?_register, Dict.get?_ofList_eq_none_iff]

theorem mem_tagNames_iff {l : Library} : n ∈ l.tagNames ↔ ∃ b, l.binding? n = some b :=
  Dict.mem_keys_iff

theorem mem_tagNames_register_iff :
    n ∈ (register rs).tagNames ↔ ∃ b, (n, b) ∈ allBindings rs := by
  rw [mem_tagNames_iff, ← Option.isSome_iff_exists, ← Option.ne_none_iff_isSome, Ne,
    unbound_register_iff]
  simp

theorem entered_register_iff :
    (register rs).components.get? m = some c ↔
      IsLast (·.qualifiedName = m) (allComponents rs) c := by
  rw [components_register, Dict.get?_ofList_eq_some_iff, isLast_map]
  constructor
  · rintro ⟨c', same, last⟩
    obtain ⟨-, rfl⟩ := Prod.mk.inj same
    exact last
  · rintro ⟨before, after, split, here, others⟩
    exact ⟨c, Prod.ext here rfl, before, after, split, here, others⟩

theorem records_register (rs : List Registration) : (register rs).Records rs where
  bound n b := by rw [binding?_register, Dict.get?_ofList_eq_some_iff]
  unbound n := unbound_register_iff
  entered m c := entered_register_iff
  absent m := by
    rw [components_register, Dict.get?_ofList_eq_none_iff, List.forall_mem_map]
    rfl
  sorted := (made_registerAll .empty rs).ordered
  named n := mem_tagNames_register_iff
  closing c other := by
    refine ⟨unbound_register_iff.2 other, fun mem => ?_⟩
    obtain ⟨b, bound⟩ := mem_tagNames_register_iff.1 mem
    exact other _ bound rfl

end

end Library

/-- A component of a manifest as an entry. -/
def Declaration.entry (d : Declaration) : Entry :=
  match d.forms with
  | .both => .component d.component
  | .inline => .inline d.component
  | .block => .block d.component

theorem Declaration.register_eq (l : Library) (d : Declaration) :
    Declaration.register l d = d.entry.register l := by
  rw [Declaration.register, entry]
  cases d.forms <;> rfl

/-- The registrations of a manifest, in the order of its entries. -/
def Manifest.registrations (m : Manifest) : List Registration :=
  (m.components.map Declaration.entry).map .entry

theorem Manifest.library_eq_register (m : Manifest) : m.library = .register m.registrations := by
  rw [library, register, registrations, registerAll_entries, List.foldl_map]
  exact congrArg (fun f => m.components.foldl f .empty)
    (funext fun l => funext fun d => d.register_eq l)

/-- The builtin tags of an engine are registered before the libraries that are added. -/
theorem Engine.builtins_addBuiltins (config : EngineConfig) (libraries : List (List Registration)) :
    ((libraries.map register).foldl addBuiltins (ofConfig config)).builtins =
      register (builtinRegistrations ++ libraries.map .merge) := by
  have step (e : Engine) : ((libraries.map register).foldl addBuiltins e).builtins =
      registerAll e.builtins (libraries.map .merge) := by
    induction libraries generalizing e with
    | nil => rfl
    | cons rs libraries ih => exact ih (e.addBuiltins (register rs))
  rw [step, register, registerAll_append]
  rfl

namespace Library

/-- The last registration wins: in a library, in the library of a manifest, whose entries count in
their order, and in an engine to which libraries are added. -/
theorem last_registration_wins :
    (∀ rs, (register rs).Records rs) ∧
      (∀ m : Manifest, m.library.Records m.registrations ∧
        m.engine.builtins.Records (builtinRegistrations ++ [.merge m.registrations])) ∧
      ∀ (config : EngineConfig) (libraries : List (List Registration)),
        let e := (libraries.map register).foldl Engine.addBuiltins (Engine.ofConfig config)
        e.builtins.Records (builtinRegistrations ++ libraries.map .merge) := by
  refine ⟨records_register, fun m => ⟨?_, ?_⟩, fun config libraries => ?_⟩
  · rw [m.library_eq_register]
    exact records_register _
  · have builtins := Engine.builtins_addBuiltins m.config [m.registrations]
    rw [List.map_singleton, ← m.library_eq_register] at builtins
    exact builtins ▸ records_register _
  · intro e
    rw [Engine.builtins_addBuiltins]
    exact records_register _

end Library

end SlotTemplate

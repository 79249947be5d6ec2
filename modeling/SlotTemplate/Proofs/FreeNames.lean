import SlotTemplate.Proofs.Tree
import SlotTemplate.Render

/-!
# Free names

The names that nodes look up in the scope in which they stand. The body of a loop has its variable
and `forloop` from the loop, and slot tags look up `slots`. The template of an invoked component
stands in a scope of its own, so that its names do not count.

* `Expr.eval_congr`: the value of an expression depends only on the names that it looks up;
* `Scope.AgreeOn.push_loopFrame`: a loop's body has its free names from the loop or from the scope
  around the loop.
-/

namespace SlotTemplate

open Rendering

/-- The names that are looked up at the start of an expression. -/
def Primary.names : Primary → List String
  | .literal _ => []
  | .lookup name _ => [name]

/-- The names that an expression looks up, those in arguments of filters included. -/
def Expr.names (e : Expr) : List String :=
  e.primary.names ++ e.filters.flatMap fun f => f.kind.argument?.elim [] Primary.names

/-- Drops the names that a loop binds in its body. -/
def outsideLoop (variableName : String) (names : List String) : List String :=
  names.filter fun name => name ≠ variableName ∧ name ≠ "forloop"

mutual

/-- The names that a node looks up in the scope around it. -/
def Node.freeNames : Node → List String
  | .text _ => []
  | .variable e => e.names
  | .conditional _ condition thenBranch elseBranch =>
    condition.names ++ (freeNamesOfAll thenBranch ++ freeNamesOfAll elseBranch)
  | .loop variableName iterable body empty =>
    iterable.names ++ (outsideLoop variableName (freeNamesOfAll body) ++ freeNamesOfAll empty)
  | .invocation _ _ args slots _ =>
    args.flatMap (·.value.names) ++ freeNamesOfSlots slots
  | .marker _ content _ _ => "slots" :: freeNamesOfAll content
  | .slotOutput _ => ["slots"]
  | .empty => []

def freeNamesOfAll : List Node → List String
  | [] => []
  | node :: nodes => node.freeNames ++ freeNamesOfAll nodes

def freeNamesOfSlots : List Slot → List String
  | [] => []
  | ⟨_, content⟩ :: slots => freeNamesOfAll content ++ freeNamesOfSlots slots

end

theorem freeNamesOfAll_eq (ns : List Node) : freeNamesOfAll ns = ns.flatMap Node.freeNames := by
  induction ns with
  | nil => rfl
  | cons n ns ih => rw [freeNamesOfAll, ih, List.flatMap_cons]

theorem freeNamesOfSlots_eq (slots : List Slot) :
    freeNamesOfSlots slots = slots.flatMap fun slot => freeNamesOfAll slot.content := by
  induction slots with
  | nil => rfl
  | cons slot slots ih =>
    obtain ⟨name, content⟩ := slot
    rw [freeNamesOfSlots, ih, List.flatMap_cons]

/-- Two scopes have the same values under some names, and lack the same of them. -/
def Scope.AgreeOn (s s' : Scope) (names : List String) : Prop :=
  ∀ name ∈ names, s.get? name = s'.get? name

theorem Scope.get?_push (s : Scope) (frame : Data) (name : String) :
    (s.push frame).get? name = (frame.get? name).or (s.get? name) := by
  change List.findSome? (·.get? name) (frame :: s.frames) = _
  rw [List.findSome?_cons]
  cases frame.get? name <;> rfl

theorem Scope.get?_ofData (data : Data) (name : String) :
    (Scope.ofData data).get? name = data.get? name := by
  change List.findSome? (·.get? name) [data] = _
  rw [List.findSome?_cons]
  cases data.get? name <;> rfl

/-- A loop binds its variable and `forloop`. -/
theorem Rendering.loopFrame_bound {variableName name : String} (index total : Nat) (item : Value)
    (h : name = variableName ∨ name = "forloop") :
    ∃ v, (loopFrame variableName index total item).get? name = some v := by
  rw [loopFrame, Dict.get?_insert]
  by_cases itself : variableName = name
  · exact ⟨item, if_pos itself⟩
  · have forloop : name = "forloop" := h.resolve_left (Ne.symm itself)
    rw [if_neg itself, forloop]
    exact ⟨_, rfl⟩

namespace Scope.AgreeOn

variable {s s' : Scope} {names names' : List String}

theorem refl (s : Scope) (names : List String) : s.AgreeOn s names := fun _ _ => rfl

theorem mono (h : s.AgreeOn s' names) (sub : names' ⊆ names) : s.AgreeOn s' names' :=
  fun name hn => h name (sub hn)

theorem append_iff : s.AgreeOn s' (names ++ names') ↔ s.AgreeOn s' names ∧ s.AgreeOn s' names' :=
  List.forall_mem_append

theorem of_mem {n : Node} {ns : List Node} (h : s.AgreeOn s' (freeNamesOfAll ns)) (hn : n ∈ ns) :
    s.AgreeOn s' n.freeNames := by
  rw [freeNamesOfAll_eq] at h
  exact h.mono fun name hm => List.mem_flatMap.2 ⟨n, hn, hm⟩

theorem of_mem_slots {slot : Slot} {slots : List Slot} (h : s.AgreeOn s' (freeNamesOfSlots slots))
    (hs : slot ∈ slots) : s.AgreeOn s' (freeNamesOfAll slot.content) := by
  rw [freeNamesOfSlots_eq] at h
  exact h.mono fun name hm => List.mem_flatMap.2 ⟨slot, hs, hm⟩

/-- In the body of a loop, scopes agree on all names on which they agree outside, and on those that
the loop binds. -/
theorem push_loopFrame {variableName : String}
    (h : s.AgreeOn s' (outsideLoop variableName names)) (index total : Nat) (item : Value) :
    (s.push (loopFrame variableName index total item)).AgreeOn
      (s'.push (loopFrame variableName index total item)) names := by
  intro name hn
  rw [Scope.get?_push, Scope.get?_push]
  by_cases bound : name = variableName ∨ name = "forloop"
  · obtain ⟨v, hv⟩ := loopFrame_bound index total item bound
    rw [hv, Option.some_or, Option.some_or]
  · have outside : name ∈ outsideLoop variableName names := by
      simpa [outsideLoop] using ⟨hn, not_or.1 bound⟩
    rw [h name outside]

end Scope.AgreeOn

section

variable {s s' : Scope}

theorem Primary.eval_congr {p : Primary} (h : s.AgreeOn s' p.names) : p.eval s = p.eval s' := by
  cases p with
  | literal v => rfl
  | lookup name keys =>
    have same : s.get? name = s'.get? name := h name (by simp [Primary.names])
    rw [Primary.eval, Primary.eval, Scope.lookup, Scope.lookup, same]

theorem FilterKind.apply_congr {k : FilterKind} (v : Value)
    (h : s.AgreeOn s' (k.argument?.elim [] Primary.names)) : k.apply s v = k.apply s' v := by
  cases k with
  | default alternative => rw [FilterKind.apply, FilterKind.apply, Primary.eval_congr h]
  | upper | lower | title | length | safe | escape => rfl

/-- The value of an expression depends only on the names that it looks up. -/
theorem Expr.eval_congr {e : Expr} (h : s.AgreeOn s' e.names) : e.eval s = e.eval s' := by
  obtain ⟨primary, filters⟩ := Scope.AgreeOn.append_iff.1 h
  rw [Expr.eval, Expr.eval, Primary.eval_congr primary]
  generalize e.primary.eval s' = v
  generalize e.filters = fs at filters
  induction fs generalizing v with
  | nil => rfl
  | cons f fs ih =>
    obtain ⟨here, there⟩ := Scope.AgreeOn.append_iff.1 filters
    rw [List.foldl_cons, List.foldl_cons, FilterKind.apply_congr v here]
    exact ih (f.kind.apply s' v) there

theorem Argument.eval_congr {args : List Argument}
    (h : s.AgreeOn s' (args.flatMap (·.value.names))) :
    (args.map fun a => (a.name, a.value.eval s)) = args.map fun a => (a.name, a.value.eval s') := by
  refine List.map_congr_left fun a ha => ?_
  have names : s.AgreeOn s' a.value.names := h.mono fun name hm => List.mem_flatMap.2 ⟨a, ha, hm⟩
  rw [Expr.eval_congr names]

theorem Rendering.filledSlot?_congr (h : s.get? "slots" = s'.get? "slots") (name : String) :
    filledSlot? s name = filledSlot? s' name := by
  rw [filledSlot?, filledSlot?, h]

end

end SlotTemplate
